import TokyoTester.Library.CriticalSections

set_option autoImplicit false

/-! # The sessions of the runner (`pkg/session/manager.go`)

The manager maps an identifier to a session, and a session that is deleted has its environment
cleaned up first. Deletions run at once: each looks the session up, waits for the session's
`cleanupMu`, looks it up again, and keeps it when its cleanup fails. Meanwhile sessions are
registered, also under an identifier that is taken.

In every run the cleanups of a session take turns and at most one of them succeeds, a deletion that
returns without an error has cleaned its session up, and no session is lost but for one that was
replaced under its identifier. -/

namespace TokyoTester

/-- A `Session`, with the cleanups under way and the deletions whose cleanup has succeeded. The
    goroutines are known by their numbers. -/
structure ManagedSession where
  id : String := ""
  cancelled : Bool := false
  cleaning : ℕ := 0
  cleanedBy : List ℕ := []

/-- `Manager`: the sessions in memory in the order in which they were registered, the map, and who
    holds each `cleanupMu`. -/
structure Manager where
  registered : ℕ := 0
  session : ℕ → ManagedSession := fun _ => {}
  sessions : String → Option ℕ := fun _ => none
  cleanupMu : ℕ → Option ℕ := fun _ => none

namespace Manager

/-! ## Calls -/

inductive ManagerOp where
  /-- `m.sessions[sessionId]` under `m.mu`. -/
  | lookup (sessionId : String)
  | lock (goroutine session : ℕ)
  | unlock (session : ℕ)
  /-- `session.Cancel()`. -/
  | cancel (session : ℕ)
  /-- `m.cleanupSession` begins, and ends. -/
  | beginCleanup (session : ℕ)
  | endCleanup (goroutine session : ℕ)
  /-- The session is taken out of the map when it is the one there. -/
  | remove (sessionId : String) (session : ℕ)

abbrev ManagerOp.Reply : ManagerOp → Type
  | .lookup _ => Option ℕ
  | .endCleanup _ _ => Option String
  | .lock _ _ | .unlock _ | .cancel _ | .beginCleanup _ | .remove _ _ => Unit

abbrev ManagerProgram (α : Type) := Program ManagerOp ManagerOp.Reply α

def call (op : ManagerOp) : ManagerProgram op.Reply := Program.perform op

/-- The session changes. -/
def update (m : Manager) (session : ℕ) (f : ManagedSession → ManagedSession) : Manager :=
  { m with session := fun s => if s = session then f (m.session s) else m.session s }

/-- The effect of a call; a cleanup ends with an error or without one. -/
def effect (error : Option String) (m : Manager) : ManagerOp → Manager
  | .lookup _ => m
  | .lock goroutine session =>
    { m with cleanupMu := fun s => if s = session then some goroutine else m.cleanupMu s }
  | .unlock session => { m with cleanupMu := fun s => if s = session then none else m.cleanupMu s }
  | .cancel session => m.update session fun s => { s with cancelled := true }
  | .beginCleanup session => m.update session fun s => { s with cleaning := s.cleaning + 1 }
  | .endCleanup goroutine session => m.update session fun s =>
      { s with
        cleaning := s.cleaning - 1
        cleanedBy := if error.isNone then s.cleanedBy ++ [goroutine] else s.cleanedBy }
  | .remove sessionId session =>
    { m with sessions := fun id =>
        if id = sessionId ∧ m.sessions id = some session then none else m.sessions id }

def reply (error : Option String) (m : Manager) : (op : ManagerOp) → op.Reply
  | .lookup sessionId => m.sessions sessionId
  | .endCleanup _ _ => error
  | .lock _ _ | .unlock _ | .cancel _ | .beginCleanup _ | .remove _ _ => ()

def handle (op : ManagerOp) (error : Option String) (m : Manager) : op.Reply × Manager :=
  (m.reply error op, m.effect error op)

/-- `Register`: a new session takes the place of one under the same identifier. -/
def register (sessionId : String) (m : Manager) : Manager :=
  { m with
    registered := m.registered + 1
    session := fun s => if s = m.registered then { id := sessionId } else m.session s
    sessions := fun id => if id = sessionId then some m.registered else m.sessions id }

/-- What a call does to `cleanupMu`. -/
def lockUse : ManagerOp → LockUse ℕ
  | .lock _ session => .acquire session
  | .unlock session => .release session
  | .lookup _ | .cancel _ | .beginCleanup _ | .endCleanup _ _ | .remove _ _ => .other

/-- `ErrSessionNotFound`. -/
def notFound (sessionId : String) : String := "session not found: " ++ sessionId

/-- `DeleteWithContext`, in the goroutine of this number. -/
def deleteWithContext (goroutine : ℕ) (sessionId : String) :
    ManagerProgram (Except String Unit) := do
  match ← call (.lookup sessionId) with
  | none => pure (.error (notFound sessionId))
  | some session => do
    call (.lock goroutine session)
    let current ← call (.lookup sessionId)
    if current ≠ some session then do
      call (.unlock session)
      pure (.error (notFound sessionId))
    else do
      call (.cancel session)
      call (.beginCleanup session)
      match ← call (.endCleanup goroutine session) with
      | some e => do
        call (.unlock session)
        pure (.error ("failed to cleanup the session : " ++ e))
      | none => do
        call (.remove sessionId session)
        call (.unlock session)
        pure (.ok ())

/-! ## Runs -/

abbrev ManagerRun := Parallel ManagerOp ManagerOp.Reply Manager String (Except String Unit)

/-- A deletion is started, its next call is answered, or a session is registered. -/
abbrev ManagerLabel := Parallel.Label String (Option String) String

def managerStep (s : ManagerRun) (label : ManagerLabel) : Option ManagerRun :=
  Parallel.step handle deleteWithContext register s label

/-- A goroutine locks a mutex that is free. -/
def ManagerSteps (s : ManagerRun) (labels : List ManagerLabel) (s' : ManagerRun) : Prop :=
  Trace.Guarded (fun s l s' => managerStep s l = some s')
    (Parallel.guard (Parallel.Free lockUse Manager.cleanupMu)) s labels s'

/-! ## What the manager keeps -/

/-- The cleanups of a session take turns, none follows one that succeeded, and its context is
    cancelled before. -/
structure Orderly (s : ManagedSession) : Prop where
  turns : s.cleaning + s.cleanedBy.length ≤ 1
  cancelled : s.cleaning ≠ 0 ∨ s.cleanedBy ≠ [] → s.cancelled = true

/-- The session is not the one in the map. -/
def Gone (m : Manager) (session : ℕ) : Prop := m.sessions (m.session session).id ≠ some session

/-- A cleanup runs under the lock of its session, and once the lock is free a session that was
    cleaned up is out of the map. One that was not is in the map, or was replaced by one that was
    registered later. -/
structure Sound (m : Manager) : Prop where
  fresh : ∀ s, m.registered ≤ s → (m.session s).cleaning = 0 ∧ (m.session s).cleanedBy = [] ∧
    m.cleanupMu s = none
  mapped : ∀ id s, m.sessions id = some s → s < m.registered ∧ (m.session s).id = id
  orderly : ∀ s, Orderly (m.session s)
  locked : ∀ s, m.cleanupMu s = none → (m.session s).cleaning = 0
  removed : ∀ s, m.cleanupMu s = none → (m.session s).cleanedBy ≠ [] → m.Gone s
  kept : ∀ s < m.registered, ¬ m.Gone s ∨ (m.session s).cleanedBy ≠ [] ∨
    ∃ s', s < s' ∧ s' < m.registered ∧ (m.session s').id = (m.session s).id

/-- A change leaves alone what some goroutines hold. Sessions keep their identifiers, and a session
    that is cleaned up or out of the map stays so. -/
structure Changed (keeps : ℕ → Prop) (m m' : Manager) : Prop where
  sound : Sound m'
  theirs : ∀ s i, keeps i → m.cleanupMu s = some i →
    m'.cleanupMu s = some i ∧ m'.session s = m.session s
  registered : m.registered ≤ m'.registered
  id : ∀ s < m.registered, (m'.session s).id = (m.session s).id
  cleaned : ∀ s, (m.session s).cleanedBy ≠ [] → (m'.session s).cleanedBy = (m.session s).cleanedBy
  gone : ∀ s < m.registered, m.Gone s → m'.Gone s

/-- A change of a sound manager. -/
def Change (keeps : ℕ → Prop) (m m' : Manager) : Prop := Sound m → Changed keeps m m'

variable {m m' m'' : Manager} {keeps : ℕ → Prop} {goroutine session : ℕ} {sessionId : String}

theorem Change.refl (keeps : ℕ → Prop) (m : Manager) : Change keeps m m := fun h =>
  ⟨h, fun _ _ _ h => ⟨h, rfl⟩, le_rfl, fun _ _ => rfl, fun _ _ => rfl, fun _ _ h => h⟩

theorem Change.trans (h : Change keeps m m') (h' : Change keeps m' m'') : Change keeps m m'' := by
  intro hm
  have h := h hm
  have h' := h' h.sound
  refine ⟨h'.sound, ?_, h.registered.trans h'.registered, ?_, ?_, ?_⟩
  · intro s i hi hlock
    obtain ⟨hlock', hsame⟩ := h.theirs s i hi hlock
    obtain ⟨hlock'', hsame'⟩ := h'.theirs s i hi hlock'
    exact ⟨hlock'', hsame'.trans hsame⟩
  · exact fun s hs => (h'.id s (hs.trans_le h.registered)).trans (h.id s hs)
  · intro s hs
    have hsame := h.cleaned s hs
    exact (h'.cleaned s (hsame ▸ hs)).trans hsame
  · exact fun s hs hgone => h'.gone s (hs.trans_le h.registered) (h.gone s hs hgone)

theorem Change.weaken {keeps' : ℕ → Prop} (h : Change keeps m m') (hk : ∀ i, keeps' i → keeps i) :
    Change keeps' m m' := fun hm =>
  let h := h hm
  ⟨h.sound, fun s i hi => h.theirs s i (hk i hi), h.registered, h.id, h.cleaned, h.gone⟩

theorem Sound.lt_registered (h : Sound m) {i : ℕ} (hlock : m.cleanupMu session = some i) :
    session < m.registered := by
  by_contra hge
  rw [(h.fresh session (not_lt.1 hge)).2.2] at hlock
  cases hlock

/-- The setting of a deletion: the others leave alone what it holds, and it what they hold. -/
def setting (goroutine : ℕ) : Setting ManagerOp ManagerOp.Reply Manager (Option String) where
  handle := handle
  rely := Change (· = goroutine)
  guard := Parallel.Free lockUse Manager.cleanupMu
  guar := Change (· ≠ goroutine)
  rely_refl := Change.refl _
  rely_trans := Change.trans

/-! ## Effects -/

/-- A session changes under its lock. -/
theorem change_update {f : ManagedSession → ManagedSession}
    (hlock : m.cleanupMu session = some goroutine) (hid : ∀ s, (f s).id = s.id)
    (horderly : Orderly (f (m.session session)))
    (hcleaned : (m.session session).cleanedBy ≠ [] →
      (f (m.session session)).cleanedBy = (m.session session).cleanedBy) :
    Change (· ≠ goroutine) m (m.update session f) := by
  intro h
  have hlt := h.lt_registered hlock
  -- only the session whose lock is held changes
  have hself : (m.update session f).session session = f (m.session session) := if_pos rfl
  have hother {s : ℕ} (hs : s ≠ session) : (m.update session f).session s = m.session s :=
    if_neg hs
  have hids (s : ℕ) : ((m.update session f).session s).id = (m.session s).id := by
    by_cases hs : s = session
    · rw [hs, hself, hid]
    · rw [hother hs]
  have hgone (s : ℕ) : (m.update session f).Gone s ↔ m.Gone s := by
    unfold Gone
    rw [hids]
    rfl
  constructor
  · constructor
    · intro s hs
      rw [hother (ne_of_gt (hlt.trans_le hs))]
      exact h.fresh s hs
    · intro id s hs
      obtain ⟨hs', hid'⟩ := h.mapped id s hs
      exact ⟨hs', (hids s).trans hid'⟩
    · intro s
      by_cases hs : s = session
      · rw [hs, hself]
        exact horderly
      · rw [hother hs]
        exact h.orderly s
    · intro s hfree
      rw [hother fun hs => by rw [hs] at hfree; exact absurd (hlock.symm.trans hfree) (by simp)]
      exact h.locked s hfree
    · intro s hfree
      rw [hgone, hother fun hs => by rw [hs] at hfree; exact absurd (hlock.symm.trans hfree) (by simp)]
      exact h.removed s hfree
    · intro s hs
      rcases h.kept s hs with hmapped | hdone | ⟨s', hlater, hs', hsame⟩
      · exact .inl ((hgone s).not.2 hmapped)
      · refine .inr (.inl ?_)
        by_cases heq : s = session
        · subst heq
          rw [hself, hcleaned hdone]
          exact hdone
        · rw [hother heq]
          exact hdone
      · exact .inr (.inr ⟨s', hlater, hs', by rw [hids, hids, hsame]⟩)
  · intro s i hi hheld
    refine ⟨hheld, hother fun heq => hi ?_⟩
    rw [heq] at hheld
    exact Option.some.inj (hheld.symm.trans hlock)
  · exact le_rfl
  · exact fun s _ => hids s
  · intro s hs
    by_cases heq : s = session
    · subst heq
      rw [hself, hcleaned hs]
    · rw [hother heq]
  · exact fun s _ => (hgone s).2

/-- A free lock is taken. -/
theorem change_lock (hlt : session < m.registered) (hfree : m.cleanupMu session = none) :
    Change (· ≠ goroutine) m (m.effect none (.lock goroutine session)) := by
  have hother {s : ℕ} (hs : s ≠ session) :
      (m.effect none (.lock goroutine session)).cleanupMu s = m.cleanupMu s := if_neg hs
  have hsub (s : ℕ) (h : (m.effect none (.lock goroutine session)).cleanupMu s = none) :
      m.cleanupMu s = none := by
    by_cases hs : s = session
    · rw [hs, hfree]
    · rw [← hother hs, h]
  intro h
  constructor
  · refine ⟨fun s hs => ?_, h.mapped, h.orderly, fun s hs => h.locked s (hsub s hs),
      fun s hs => h.removed s (hsub s hs), h.kept⟩
    rw [hother (ne_of_gt (hlt.trans_le hs))]
    exact h.fresh s hs
  · intro s i _ hheld
    refine ⟨?_, rfl⟩
    rw [hother fun hs => by rw [hs, hfree] at hheld; cases hheld]
    exact hheld
  · exact le_rfl
  · exact fun _ _ => rfl
  · exact fun _ _ => rfl
  · exact fun _ _ h => h

/-- A lock is released between two cleanups, and after one that succeeded once the session is out of
    the map. -/
theorem change_unlock (hlock : m.cleanupMu session = some goroutine)
    (hidle : (m.session session).cleaning = 0)
    (hgone : (m.session session).cleanedBy ≠ [] → m.Gone session) :
    Change (· ≠ goroutine) m (m.effect none (.unlock session)) := by
  have hother {s : ℕ} (hs : s ≠ session) :
      (m.effect none (.unlock session)).cleanupMu s = m.cleanupMu s := if_neg hs
  intro h
  constructor
  · refine ⟨fun s hs => ?_, h.mapped, h.orderly, fun s hs => ?_, fun s hs => ?_, h.kept⟩
    · rw [hother (ne_of_gt ((h.lt_registered hlock).trans_le hs))]
      exact h.fresh s hs
    · by_cases heq : s = session
      · exact heq ▸ hidle
      · exact h.locked s (hother heq ▸ hs)
    · by_cases heq : s = session
      · exact heq ▸ hgone
      · exact h.removed s (hother heq ▸ hs)
  · intro s i hi hheld
    refine ⟨?_, rfl⟩
    rw [hother fun hs => hi (Option.some.inj ((hs ▸ hheld).symm.trans hlock))]
    exact hheld
  · exact le_rfl
  · exact fun _ _ => rfl
  · exact fun _ _ => rfl
  · exact fun _ _ h => h

/-- A session that was cleaned up is taken out of the map. -/
theorem change_remove (hdone : (m.session session).cleanedBy ≠ []) :
    Change (· ≠ goroutine) m (m.effect none (.remove sessionId session)) := by
  have hsub (id : String) (s : ℕ)
      (h : (m.effect none (.remove sessionId session)).sessions id = some s) :
      m.sessions id = some s := by
    have h' : (if id = sessionId ∧ m.sessions id = some session then none else m.sessions id)
        = some s := h
    split_ifs at h' with hcond
    exact h'
  have hgone (s : ℕ) (h : m.Gone s) : (m.effect none (.remove sessionId session)).Gone s :=
    fun hs => h (hsub _ _ hs)
  intro h
  constructor
  · refine ⟨h.fresh, fun id s hs => h.mapped id s (hsub id s hs), h.orderly, h.locked,
      fun s hs hcleaned => hgone s (h.removed s hs hcleaned), fun s hs => ?_⟩
    by_cases heq : s = session
    · exact .inr (.inl (heq ▸ hdone))
    · refine (h.kept s hs).imp_left fun hmapped hs' => hmapped fun hs'' => hs' ?_
      show (if _ ∧ m.sessions _ = some session then none else m.sessions _) = some s
      rw [if_neg fun hcond => heq (Option.some.inj (hs''.symm.trans hcond.2))]
      exact hs''
  · exact fun s i _ hheld => ⟨hheld, rfl⟩
  · exact le_rfl
  · exact fun _ _ => rfl
  · exact fun _ _ => rfl
  · exact fun s _ => hgone s

theorem orderly_new (sessionId : String) : Orderly { id := sessionId } :=
  ⟨Nat.zero_le 1, fun h => by simp at h⟩

/-- A session is registered. -/
theorem change_register (keeps : ℕ → Prop) (sessionId : String) (m : Manager) :
    Change keeps m (m.register sessionId) := by
  intro h
  have hself : (m.register sessionId).session m.registered = { id := sessionId } := if_pos rfl
  have hother {s : ℕ} (hs : s ≠ m.registered) :
      (m.register sessionId).session s = m.session s := if_neg hs
  have hnew : (m.register sessionId).sessions sessionId = some m.registered := if_pos rfl
  have hold {id : String} (hid : id ≠ sessionId) :
      (m.register sessionId).sessions id = m.sessions id := if_neg hid
  have hgone {s : ℕ} (hs : s < m.registered) (hg : m.Gone s) : (m.register sessionId).Gone s := by
    unfold Gone at hg ⊢
    rw [hother hs.ne]
    by_cases hid : (m.session s).id = sessionId
    · rw [hid, hnew]
      exact fun heq => hs.ne (Option.some.inj heq).symm
    · rwa [hold hid]
  constructor
  · constructor
    · intro s hs
      have hlt : m.registered < s := hs
      rw [hother hlt.ne']
      exact h.fresh s hlt.le
    · intro id s hs
      by_cases hid : id = sessionId
      · subst hid
        obtain rfl := Option.some.inj (hnew.symm.trans hs)
        exact ⟨Nat.lt_succ_self _, by rw [hself]⟩
      · obtain ⟨hlt, hsame⟩ := h.mapped id s (hold hid ▸ hs)
        exact ⟨Nat.lt_succ_of_lt hlt, by rw [hother hlt.ne, hsame]⟩
    · intro s
      by_cases hs : s = m.registered
      · rw [hs, hself]
        exact orderly_new sessionId
      · rw [hother hs]
        exact h.orderly s
    · intro s hfree
      by_cases hs : s = m.registered
      · rw [hs, hself]
      · rw [hother hs]
        exact h.locked s hfree
    · intro s hfree hdone
      rcases Nat.lt_trichotomy s m.registered with hs | rfl | hs
      · rw [hother hs.ne] at hdone
        exact hgone hs (h.removed s hfree hdone)
      · rw [hself] at hdone
        exact absurd rfl hdone
      · rw [hother hs.ne'] at hdone
        exact absurd (h.fresh s hs.le).2.1 hdone
    · intro s hs
      rcases Nat.lt_succ_iff_lt_or_eq.1 hs with hs | rfl
      · rw [hother hs.ne]
        by_cases hid : (m.session s).id = sessionId
        · -- it is replaced if it was in the map
          exact .inr (.inr ⟨m.registered, hs, Nat.lt_succ_self _, by rw [hself, hid]⟩)
        · rcases h.kept s hs with hmapped | hdone | ⟨s', hlater, hs', hsame⟩
          · refine .inl fun hg => hmapped fun heq => hg ?_
            rw [hother hs.ne, hold hid]
            exact heq
          · exact .inr (.inl hdone)
          · exact .inr (.inr ⟨s', hlater, Nat.lt_succ_of_lt hs', by rw [hother hs'.ne, hsame]⟩)
      · refine .inl fun hg => hg ?_
        rw [hself]
        exact hnew
  · intro s i _ hheld
    exact ⟨hheld, hother (h.lt_registered hheld).ne⟩
  · exact Nat.le_succ _
  · exact fun s hs => by rw [hother hs.ne]
  · intro s hs
    rw [hother fun heq => hs (by rw [heq]; exact (h.fresh m.registered le_rfl).2.1)]
  · exact fun s hs => hgone hs

/-! ## A deletion -/

/-- The goroutine holds the lock of the session and knows this of it, and the session is out of the
    map if that holds. -/
structure Holds (goroutine session : ℕ) (known out : ManagedSession → Prop) (m : Manager) :
    Prop where
  sound : Sound m
  lock : m.cleanupMu session = some goroutine
  known : known (m.session session)
  out : out (m.session session) → m.Gone session

/-- The session was cleaned up by the deletion, and is out of the map. -/
structure Deleted (goroutine : ℕ) (sessionId : String) (m : Manager) : Prop where
  sound : Sound m
  cleaned : ∃ s < m.registered, (m.session s).id = sessionId ∧
    (m.session s).cleanedBy = [goroutine] ∧ m.Gone s

section Deletion

variable {known out : ManagedSession → Prop}

theorem Holds.stable (h : Holds goroutine session known out m)
    (hchange : Change (· = goroutine) m m') : Holds goroutine session known out m' := by
  have hchange := hchange h.sound
  obtain ⟨hlock, hsame⟩ := hchange.theirs session goroutine rfl h.lock
  exact ⟨hchange.sound, hlock, hsame ▸ h.known, fun hout =>
    hchange.gone session (h.sound.lt_registered h.lock) (h.out (hsame ▸ hout))⟩

theorem Deleted.stable (h : Deleted goroutine sessionId m) (hchange : Change (· = goroutine) m m') :
    Deleted goroutine sessionId m' := by
  obtain ⟨s, hs, hid, hcleaned, hgone⟩ := h.cleaned
  have hchange := hchange h.sound
  refine ⟨hchange.sound, s, hs.trans_le hchange.registered, (hchange.id s hs).trans hid, ?_,
    hchange.gone s hs hgone⟩
  rw [hchange.cleaned s (by simp [hcleaned]), hcleaned]

/-- The rule for a call, by its effect and its reply. -/
theorem safe_perform {op : ManagerOp} {before : Manager → Prop} {after : op.Reply → Manager → Prop}
    (hbefore : ∀ {m m'}, Change (· = goroutine) m m' → before m → before m')
    (hafter : ∀ {r m m'}, Change (· = goroutine) m m' → after r m → after r m')
    (hcall : ∀ error m, before m → Parallel.Free lockUse Manager.cleanupMu op error m →
      Change (· ≠ goroutine) m (m.effect error op) ∧ after (m.reply error op) (m.effect error op))
    (h : before m) : (setting goroutine).Safe after (call op) m :=
  Setting.Safe.perform_stable hbefore hafter hcall h

/-- A call that changes the session whose lock is held. -/
theorem safe_update {op : ManagerOp} (f : Option String → ManagedSession → ManagedSession)
    {known' : op.Reply → ManagedSession → Prop}
    (heffect : ∀ error m, effect error m op = m.update session (f error))
    (hid : ∀ error s, (f error s).id = s.id)
    (hknown : ∀ error (m : Manager), known (m.session session) →
      known' (m.reply error op) (f error (m.session session)))
    (horderly : ∀ error s, known s → Orderly (f error s) ∧
      (s.cleanedBy ≠ [] → (f error s).cleanedBy = s.cleanedBy))
    (h : Holds goroutine session known (fun _ => False) m) :
    (setting goroutine).Safe (fun r => Holds goroutine session (known' r) fun _ => False)
      (call op) m := by
  refine safe_perform (fun hm h => h.stable hm) (fun hm h => h.stable hm) (fun error m h _ => ?_) h
  have hself : (m.update session (f error)).session session = f error (m.session session) :=
    if_pos rfl
  obtain ⟨hone, hcleaned⟩ := horderly error _ h.known
  rw [heffect]
  have hchange := change_update (f := f error) h.lock (hid error) hone hcleaned
  refine ⟨hchange, (hchange h.sound).sound, h.lock, ?_, False.elim⟩
  rw [hself]
  exact hknown error m h.known

/-- The lock is released, and then nothing more is known. -/
theorem safe_unlock {post : Except String Unit → Manager → Prop} {r : Except String Unit}
    (hidle : ∀ s, known s → s.cleaning = 0)
    (hout : ∀ s, known s → s.cleanedBy ≠ [] → out s)
    (hpost : ∀ m m', Holds goroutine session known out m →
      Change (· = goroutine) (m.effect none (.unlock session)) m' → post r m')
    (h : Holds goroutine session known out m) :
    (setting goroutine).Safe post (call (.unlock session) >>= fun _ => pure r) m := by
  have hchange {m : Manager} (h : Holds goroutine session known out m) :
      Change (· ≠ goroutine) m (m.effect none (.unlock session)) :=
    change_unlock h.lock (hidle _ h.known) fun hdone => h.out (hout _ h.known hdone)
  intro m' hm' error _
  exact ⟨hchange (h.stable hm'), fun m'' hm'' => hpost m' m'' (h.stable hm') hm''⟩

/-- What is known of the session that is looked up first. -/
structure Found (sessionId : String) (r : Option ℕ) (m : Manager) : Prop where
  sound : Sound m
  found : ∀ s ∈ r, s < m.registered ∧ (m.session s).id = sessionId

theorem Found.stable {r : Option ℕ} (h : Found sessionId r m)
    (hchange : Change (· = goroutine) m m') : Found sessionId r m' := by
  have hchange := hchange h.sound
  refine ⟨hchange.sound, fun s hs => ?_⟩
  obtain ⟨hlt, hid⟩ := h.found s hs
  exact ⟨hlt.trans_le hchange.registered, (hchange.id s hlt).trans hid⟩

theorem safe_lookup (h : Sound m) :
    (setting goroutine).Safe (Found sessionId) (call (.lookup sessionId)) m :=
  safe_perform (fun hm h => (hm h).sound) (fun hm h => h.stable hm)
    (fun _ m h _ => ⟨Change.refl _ m, h, fun s hs => h.mapped sessionId s hs⟩) h

/-- A lock that was free guards a session without a cleanup under way. -/
theorem safe_lock (h : Found sessionId (some session) m) :
    (setting goroutine).Safe
      (fun _ => Holds goroutine session (fun s => s.cleaning = 0 ∧ s.id = sessionId)
        fun s => s.cleanedBy ≠ [])
      (call (.lock goroutine session)) m := by
  refine safe_perform (fun hm h => h.stable hm) (fun hm h => h.stable hm) ?_ h
  intro error m h hfree
  have hnone := hfree session rfl
  obtain ⟨hlt, hid⟩ := h.found session rfl
  have hchange : Change (· ≠ goroutine) m (m.effect none (.lock goroutine session)) :=
    change_lock hlt hnone
  exact ⟨hchange, (hchange h.sound).sound, if_pos rfl, ⟨h.sound.locked session hnone, hid⟩,
    h.sound.removed session hnone⟩

/-- A session that is still in the map was not cleaned up. -/
theorem safe_lookup_again (h : Holds goroutine session (fun s => s.cleaning = 0 ∧ s.id = sessionId)
    (fun s => s.cleanedBy ≠ []) m) :
    (setting goroutine).Safe
      (fun r => Holds goroutine session
        (fun s => s.cleaning = 0 ∧ s.id = sessionId ∧ (r = some session → s.cleanedBy = []))
        fun s => s.cleanedBy ≠ [])
      (call (.lookup sessionId)) m := by
  refine safe_perform (fun hm h => h.stable hm) (fun hm h => h.stable hm) ?_ h
  intro error m h _
  refine ⟨Change.refl _ m, h.sound, h.lock, ⟨h.known.1, h.known.2, fun hcurrent => ?_⟩, h.out⟩
  by_contra hdone
  exact h.out hdone (by rw [h.known.2]; exact hcurrent)

/-- A cleanup begins after the session's context is cancelled, and ends. -/
theorem safe_cleanup {β : Type} {post : β → Manager → Prop}
    {f : Option String → ManagerProgram β}
    (h : Holds goroutine session
      (fun s => s.cleaning = 0 ∧ s.id = sessionId ∧ s.cleanedBy = []) (fun _ => False) m)
    (hf : ∀ (r : Option String) m, Holds goroutine session
      (fun s => s.cleaning = 0 ∧ s.id = sessionId ∧
        s.cleanedBy = if r.isNone then [goroutine] else []) (fun _ => False) m →
      (setting goroutine).Safe post (f r) m) :
    (setting goroutine).Safe post
      (do
        call (.cancel session)
        call (.beginCleanup session)
        let r ← call (.endCleanup goroutine session)
        f r) m := by
  -- the context is cancelled before the cleanup begins
  have hcancelled : (setting goroutine).Safe
      (fun _ => Holds goroutine session
        (fun s => s.cleaning = 0 ∧ s.id = sessionId ∧ s.cleanedBy = [] ∧ s.cancelled = true)
        fun _ => False)
      (call (.cancel session)) m := by
    refine safe_update (fun _ s => { s with cancelled := true }) (fun _ _ => rfl) (fun _ _ => rfl)
      (fun error m hknown => ⟨hknown.1, hknown.2.1, hknown.2.2, rfl⟩)
      (fun error s hs => ⟨⟨?_, fun _ => rfl⟩, fun _ => rfl⟩) h
    simp [hs.1, hs.2.2]
  refine Setting.Safe.bind hcancelled fun _ m hm => ?_
  have hbegun : (setting goroutine).Safe
      (fun _ => Holds goroutine session
        (fun s => s.cleaning = 1 ∧ s.id = sessionId ∧ s.cleanedBy = [] ∧ s.cancelled = true)
        fun _ => False)
      (call (.beginCleanup session)) m := by
    refine safe_update (fun _ s => { s with cleaning := s.cleaning + 1 }) (fun _ _ => rfl)
      (fun _ _ => rfl) (fun error m hknown => ?_)
      (fun error s hs => ⟨⟨?_, fun _ => hs.2.2.2⟩, fun _ => rfl⟩) hm
    · exact ⟨by rw [hknown.1], hknown.2⟩
    · simp [hs.1, hs.2.2.1]
  refine Setting.Safe.bind hbegun fun _ m hm => ?_
  refine Setting.Safe.bind (safe_update (fun error s => { s with
      cleaning := s.cleaning - 1
      cleanedBy := if error.isNone then s.cleanedBy ++ [goroutine] else s.cleanedBy })
    (fun _ _ => rfl) (fun _ _ => rfl) (fun error m hknown => ?_) (fun error s hs => ?_) hm)
    fun r m hm => hf r m hm
  · obtain ⟨hone, hid, hnone, -⟩ := hknown
    refine ⟨by rw [hone], hid, ?_⟩
    rw [hnone]
    rfl
  · obtain ⟨hone, -, hnone, hcancelled⟩ := hs
    refine ⟨⟨?_, fun _ => hcancelled⟩, fun hdone => absurd hnone hdone⟩
    cases error <;> simp [hone, hnone]

theorem safe_remove (h : Holds goroutine session
      (fun s => s.cleaning = 0 ∧ s.id = sessionId ∧ s.cleanedBy = [goroutine]) (fun _ => False) m) :
    (setting goroutine).Safe
      (fun _ => Holds goroutine session
        (fun s => s.cleaning = 0 ∧ s.id = sessionId ∧ s.cleanedBy = [goroutine]) fun _ => True)
      (call (.remove sessionId session)) m := by
  refine safe_perform (fun hm h => h.stable hm) (fun hm h => h.stable hm) ?_ h
  intro error m h _
  have hchange : Change (· ≠ goroutine) m (m.effect none (.remove sessionId session)) :=
    change_remove (by simp [h.known.2.2])
  refine ⟨hchange, (hchange h.sound).sound, h.lock, h.known, fun _ hs => ?_⟩
  have hs' : (if (m.session session).id = sessionId ∧
      m.sessions (m.session session).id = some session then none
      else m.sessions (m.session session).id) = some session := hs
  split_ifs at hs' with hcond
  exact hcond ⟨h.known.2.1, hs'⟩

/-- **A deletion that returns without an error** has cleaned its session up. -/
theorem safe_deleteWithContext (h : Sound m) :
    (setting goroutine).Safe (fun r m => r = .ok () → Deleted goroutine sessionId m)
      (deleteWithContext goroutine sessionId) m := by
  have herror (e : String) (m' : Manager) :
      (Except.error e : Except String Unit) = .ok () → Deleted goroutine sessionId m' :=
    fun h => by cases h
  refine Setting.Safe.bind (safe_lookup h) fun r m hm => ?_
  cases r with
  | none => exact Setting.Safe.pure fun m' _ => herror _ m'
  | some session =>
  refine Setting.Safe.bind (safe_lock hm) fun _ m hm => ?_
  refine Setting.Safe.bind (safe_lookup_again hm) fun current m hm => ?_
  by_cases hcurrent : current = some session
  · rw [if_neg (not_not.2 hcurrent)]
    obtain ⟨hidle, hid, hnew⟩ := hm.known
    refine safe_cleanup ⟨hm.sound, hm.lock, ⟨hidle, hid, hnew hcurrent⟩, False.elim⟩ ?_
    intro r m hm
    cases r with
    | some e =>
        exact safe_unlock (fun s hs => hs.1) (fun s hs hdone => absurd hs.2.2 hdone)
          (fun _ m' _ _ => herror _ m') hm
    | none =>
        refine Setting.Safe.bind (safe_remove hm) fun _ m hm => ?_
        refine safe_unlock (fun s hs => hs.1) (fun s _ _ => trivial) (fun m m' hm hm' _ => ?_) hm
        obtain ⟨hidle, hid, hcleaned⟩ := hm.known
        have hchange : Change (· ≠ goroutine) m (m.effect none (.unlock session)) :=
          change_unlock hm.lock hidle fun _ => hm.out trivial
        exact Deleted.stable ⟨(hchange hm.sound).sound, session, hm.sound.lt_registered hm.lock, hid,
          hcleaned, hm.out trivial⟩ hm'
  · rw [if_pos hcurrent]
    exact safe_unlock (fun s hs => hs.1) (fun s _ hdone => hdone) (fun _ m' _ _ => herror _ m') hm

end Deletion

/-! ## The locks of a deletion -/

/-- A goroutine takes locks for itself. -/
def Mine (goroutine : ℕ) : ManagerOp → Prop
  | .lock holder _ => holder = goroutine
  | .lookup _ | .unlock _ | .cancel _ | .beginCleanup _ | .endCleanup _ _ | .remove _ _ => True

theorem lockTable : Parallel.LockTable handle lockUse Mine Manager.cleanupMu := by
  constructor
  · intro i op lock error m hmine hop s
    cases op with
    | lock holder session =>
        obtain rfl := hmine
        obtain rfl := LockUse.acquire.inj hop
        by_cases hs : s = session
        · exact .inl ⟨if_pos hs, hs⟩
        · exact .inr ⟨if_neg hs, hs⟩
    | _ => cases hop
  · intro i op lock error m _ hop s
    cases op with
    | unlock session =>
        obtain rfl := LockUse.release.inj hop
        by_cases hs : s = session
        · exact .inl ⟨if_pos hs, hs⟩
        · exact .inr ⟨if_neg hs, hs⟩
    | _ => cases hop
  · intro i op error m _ hop s
    cases op with
    | lock holder session => cases hop
    | unlock session => cases hop
    | _ => rfl

theorem mine_deleteWithContext (goroutine : ℕ) (sessionId : String) :
    (deleteWithContext goroutine sessionId).Uses (Mine goroutine) := by
  have hcall {β : Type} {op : ManagerOp} {f : op.Reply → ManagerProgram β} (hop : Mine goroutine op)
      (hf : ∀ r, (f r).Uses (Mine goroutine)) : (call op >>= f).Uses (Mine goroutine) :=
    Program.Uses.bind (Program.Uses.perform hop) hf
  refine hcall trivial fun r => ?_
  cases r with
  | none => exact Program.Uses.pure _
  | some session =>
  refine hcall rfl fun _ => hcall trivial fun current => ?_
  split_ifs
  · exact hcall trivial fun _ => Program.Uses.pure _
  refine hcall trivial fun _ => hcall trivial fun _ => hcall trivial fun r => ?_
  cases r with
  | some e => exact hcall trivial fun _ => Program.Uses.pure _
  | none => exact hcall trivial fun _ => hcall trivial fun _ => Program.Uses.pure _

/-- A deletion leaves the section of its session in every case. -/
theorem sectioned_deleteWithContext (goroutine : ℕ) (sessionId : String) :
    (deleteWithContext goroutine sessionId).Sectioned lockUse none := by
  refine Program.sectioned_other rfl fun r => ?_
  cases r with
  | none => exact rfl
  | some session =>
  refine Program.sectioned_acquire rfl fun _ => Program.sectioned_other rfl fun current => ?_
  split_ifs
  · exact Program.sectioned_release rfl fun _ => rfl
  refine Program.sectioned_other rfl fun _ => Program.sectioned_other rfl fun _ =>
    Program.sectioned_other rfl fun r => ?_
  cases r with
  | some e => exact Program.sectioned_release rfl fun _ => rfl
  | none => exact Program.sectioned_other rfl fun _ => Program.sectioned_release rfl fun _ => rfl

/-! ## Every run -/

theorem sound_empty : Sound {} := by
  constructor
  · exact fun s _ => ⟨rfl, rfl, rfl⟩
  · exact fun id s hs => by cases hs
  · exact fun s => orderly_new ""
  · exact fun s _ => rfl
  · exact fun s _ hdone => absurd rfl hdone
  · exact fun s hs => absurd hs (Nat.not_lt_zero s)

section Run

variable {labels : List ManagerLabel} {s : ManagerRun}

theorem sound_of_steps (h : ManagerSteps { shared := {} } labels s) :
    Sound s.shared ∧ Parallel.EachSafe setting
      (fun goroutine sessionId r m => r = .ok () → Deleted goroutine sessionId m) s := by
  refine Parallel.guarded_each setting
    (fun goroutine sessionId r m => r = .ok () → Deleted goroutine sessionId m) h
    (fun _ => rfl) (fun _ => rfl) ?_ ?_ Sound ?_ ?_ ?_ sound_empty ?_
  · exact fun hij hguar => hguar.weaken fun k hk hki => hij (hki.symm.trans hk)
  · exact fun i sessionId m => change_register _ sessionId m
  · exact fun hguar hm => (hguar hm).sound
  · exact fun {sessionId m} hm => (change_register (fun _ => True) sessionId m hm).sound
  · exact fun i sessionId _ hm => safe_deleteWithContext hm
  · exact fun i t ht => by cases ht

theorem turns_of_steps (h : ManagerSteps { shared := {} } labels s) :
    Parallel.Turns lockUse Mine Manager.cleanupMu s := by
  refine Parallel.Turns.steps h lockTable (fun hfree => hfree) (fun _ _ _ => rfl)
    mine_deleteWithContext sectioned_deleteWithContext ⟨?_, ?_, ?_⟩
  · exact fun i t ht => by cases ht
  · exact fun i t ht => by cases ht
  · exact fun lock i hi => by cases hi

/-- **Deletions take turns.** In every run that starts with no session:
    the cleanups of a session never overlap, at most one of them succeeds, and its context is
    cancelled before; a deletion that returned without an error has cleaned up a session of its
    identifier that is out of the map; every session is in the map, or cleaned up, or replaced by a
    later one under its identifier; and as long as a deletion has not returned, some deletion can go
    on, whatever its call is answered. -/
theorem deletions_take_turns (h : ManagerSteps { shared := {} } labels s) :
    (∀ session, Orderly (s.shared.session session)) ∧
      (∀ (goroutine : ℕ) sessionId p, s.threads[goroutine]? = some (sessionId, p) →
        p.result? = some (.ok ()) →
          ∃ session < s.shared.registered, (s.shared.session session).id = sessionId ∧
            (s.shared.session session).cleanedBy = [goroutine] ∧
            s.shared.sessions sessionId ≠ some session) ∧
      (∀ session < s.shared.registered,
        s.shared.sessions (s.shared.session session).id = some session ∨
          (s.shared.session session).cleanedBy ≠ [] ∨
          ∃ later, session < later ∧ later < s.shared.registered ∧
            (s.shared.session later).id = (s.shared.session session).id) ∧
      ∀ (goroutine : ℕ) t, s.threads[goroutine]? = some t → t.2.result? = none →
        ∃ other : ℕ, ∀ answer,
          Parallel.guard (Parallel.Free lockUse Manager.cleanupMu) s
              (.call other answer : ManagerLabel) ∧
            (managerStep s (.call other answer)).isSome := by
  obtain ⟨hsound, hsafe⟩ := sound_of_steps h
  refine ⟨hsound.orderly, ?_, fun session hlt => ?_, ?_⟩
  · intro goroutine sessionId p hthread hresult
    obtain ⟨session, hlt, (hid : _ = sessionId), hcleaned, hgone⟩ :=
      ((hsafe goroutine _ hthread).result hresult rfl).cleaned
    exact ⟨session, hlt, hid, hcleaned, hid ▸ hgone⟩
  · exact (hsound.kept session hlt).imp_left not_not.1
  · exact fun goroutine t hthread hopen => (turns_of_steps h).exists_step hthread hopen

/-- Two deletions of a session: the second one waits for the first, and finds it gone. -/
def twoDeletions : List ManagerLabel :=
  [.environment "a", .start "a", .start "a", .call 0 none, .call 1 none, .call 0 none,
    .call 0 none, .call 0 none, .call 0 none, .call 0 none, .call 0 none, .call 0 none,
    .call 1 none, .call 1 none, .call 1 none]

theorem twoDeletions_runs : ∃ s, ManagerSteps { shared := {} } twoDeletions s ∧
    s.threads = [("a", .done (.ok ())), ("a", .done (.error "session not found: a"))] := by
  obtain ⟨s, hs, hthreads⟩ : ∃ s, Trace.run (Trace.restrict managerStep
      (Parallel.guard (Parallel.Free lockUse Manager.cleanupMu)))
      { shared := {} } twoDeletions = some s ∧
      s.threads = [("a", .done (.ok ())), ("a", .done (.error "session not found: a"))] :=
    ⟨_, rfl, rfl⟩
  exact ⟨s, Trace.Guarded.of_run hs, hthreads⟩

theorem deletions_take_turns_twice :
    ∃ s, ManagerSteps { shared := {} } twoDeletions s ∧
      (∀ session, Orderly (s.shared.session session)) ∧
      ∃ session < s.shared.registered, (s.shared.session session).id = "a" ∧
        (s.shared.session session).cleanedBy = [0] ∧ s.shared.sessions "a" ≠ some session := by
  obtain ⟨s, hs, hthreads⟩ := twoDeletions_runs
  obtain ⟨horderly, hdeleted, -⟩ := deletions_take_turns hs
  exact ⟨s, hs, horderly, hdeleted 0 "a" (.done (.ok ())) (by rw [hthreads]; rfl) rfl⟩

end Run

end Manager

end TokyoTester
