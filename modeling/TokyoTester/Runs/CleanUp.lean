import TokyoTester.Library.Journal
import TokyoTester.Runs.Scenario

set_option autoImplicit false

/-! # The request that cleans a session up (`handlers.go`)

`CleanUpSession` marks the row of a session, removes what the session has provisioned, through its
active session or with the help of the resource cleaner, and writes the row again with the way the
removal ended. What the row says of the tests is kept when the removal fails. After a removal it is
replaced by the summary of no test at all. -/

namespace TokyoTester

open Table

/-- The responses of `CleanUpSession`. -/
inductive CleanUpResponse where
  /-- No slot came in time. -/
  | rejected
  | notFound
  | failed (message : String)
  | cleaned (message : String)
deriving DecidableEq, Repr

namespace Handler

variable (h : Handler)

/-- A checkpoint of the session that was found, if one was. Its index and its status are those of
    the row that was read. -/
def checkpointOf (persisted : Option Session) (detached : Bool) (phase : SessionPhase)
    (finalStatus : Session → Option ExecutionStatus) (finalSummary : Option Json) : Task Unit :=
  match persisted with
  | none => pure ()
  | some p =>
    h.persistCheckpoint detached p.id p.checkpointIndex phase (finalStatus p) finalSummary

/-- The release of the lease of the session that was found. -/
def releaseOf (persisted : Option Session) (detached : Bool) : Task Unit :=
  match persisted with
  | none => pure ()
  | some p => releaseSessionLease detached p.id

/-- A status that is given to `persistCheckpoint`: the empty one is none. -/
def statusGiven (session : Session) : Option ExecutionStatus :=
  if session.status.text = "" then none else some session.status

/-- The row after a removal. -/
def finishCleanUp (detached : Bool) (persisted : Option Session) : Task Unit := do
  h.checkpointOf persisted detached .completed statusGiven (some (summarizeResults []))
  releaseOf persisted false

/-- The row after a removal that failed. -/
def failCleanUp (persisted : Option Session) : Task Unit := do
  h.checkpointOf persisted true .cleanupFailed (fun _ => some .cleanupFailed) none
  releaseOf persisted true

/-- `CleanUpSession` after `DeleteWithContext` has failed. -/
def recoverCleanUp (active : Bool) (persisted : Option Session) (e : ExecutionError) :
    Task CleanUpResponse :=
  if active then do
    h.failCleanUp persisted
    pure (.failed ("cleanup failed: " ++ e.text))
  else
    match persisted with
    | none => pure .notFound
    | some p => do
      match ← cleanupPersistedSessionResources p.id 3 with
      | some recoveryErr =>
        h.failCleanUp (some p)
        pure (.failed ("cleanup failed: " ++ recoveryErr))
      | none =>
        h.finishCleanUp true (some p)
        pure (.cleaned "Persisted session resources cleaned up successfully")

/-- `CleanUpSession`. Whether a slot comes in time and whether the session is active are the
    environment's. -/
def cleanUpSession (granted active : Bool) (sessionId : String) : Task CleanUpResponse :=
  if granted then do
    let persisted ← resolvePersistedSession sessionId {}
    h.checkpointOf persisted false .cleaningUp (fun _ => none) none
    match (← Program.perform (Op.deleteSession sessionId)).2 with
    | some e => h.recoverCleanUp active persisted e
    | none =>
      h.finishCleanUp false persisted
      pure (.cleaned "Session cleaned up successfully")
  else pure .rejected

end Handler

/-! ## What is recorded of a session -/

/-- What a row says of its session's outcome. -/
structure SessionOutcome where
  status : ExecutionStatus
  result : String
  completedAt : Option Time
  checkpointIndex : Int
deriving DecidableEq, Repr

def Session.outcome (s : Session) : SessionOutcome :=
  ⟨s.status, s.result, s.completedAt, s.checkpointIndex⟩

/-- The summary of the tests and the index of the checkpoint are the same. -/
def SessionOutcome.KeepsSummary (before after : SessionOutcome) : Prop :=
  after.result = before.result ∧ after.checkpointIndex = before.checkpointIndex

/-- So are the status and, if it was set, the time of completion. -/
def SessionOutcome.Keeps (before after : SessionOutcome) : Prop :=
  before.KeepsSummary after ∧ after.status = before.status ∧
    (before.completedAt ≠ none → after.completedAt = before.completedAt)

/-- A call that has removed the resources of a session. -/
def removes : Event Reply → Prop
  | ⟨.deleteSession _, reply⟩ => reply.2 = none
  | ⟨.cleanResources _, reply⟩ => reply = none
  | _ => False

/-- The resources were removed. -/
def Removed (events : List (Event Reply)) : Prop := ∃ event ∈ events, removes event

theorem removed_append {events : List (Event Reply)} {event : Event Reply} :
    Removed (events ++ [event]) ↔ Removed events ∨ removes event := by
  simp [Removed, or_and_right, exists_or]

/-! ## Rows of a session -/

/-- There is a row with the id, and it has the property. -/
def Database.HasRow (db : Database) (id : String) (R : Session → Prop) : Prop :=
  (∃ s ∈ db.sessions, s.id = id) ∧ ∀ s ∈ db.sessions, s.id = id → R s

/-- A property of a row that does not look at its version or at its times. -/
def Unstamped (R : Session → Prop) : Prop :=
  ∀ (s : Session) (version : Int) (createdAt updatedAt : Time), R s →
    R { s with version, createdAt, updatedAt }

section Rows

variable {db db' : Database} {id : String} {R R' : Session → Prop} {row : Session}

/-- A row that is read. -/
theorem getSession_mem {s : Session} (h : db.getSession id = .ok s) :
    s ∈ db.sessions ∧ s.id = id ∧ s.isDeleted = false := by
  unfold Database.getSession at h
  cases hfind : db.sessions.find? fun s => s.id = id && !s.isDeleted with
  | none =>
      rw [hfind] at h
      cases h
  | some found =>
      rw [hfind] at h
      obtain rfl := Except.ok.inj h
      have hprop := List.find?_some hfind
      simp only [Bool.and_eq_true, decide_eq_true_eq, Bool.not_eq_true'] at hprop
      exact ⟨List.mem_of_find?_eq_some hfind, hprop⟩

theorem readSession_mem (hR : Unstamped R) (hrows : db.HasRow id R) {s : Session}
    (h : db.readSession id = .ok s) : s.id = id ∧ R s := by
  obtain ⟨found, hfound, rfl⟩ := Transaction.map_eq_ok.1 h
  obtain ⟨hmem, hid, -⟩ := getSession_mem hfound
  exact ⟨hid, hR found 0 found.createdAt found.updatedAt (hrows.2 found hmem hid)⟩

theorem Database.HasRow.mono (h : db.HasRow id R) (hR : ∀ s, R s → R' s) : db.HasRow id R' :=
  ⟨h.1, fun s hs hid => hR s (h.2 s hs hid)⟩

/-- Rows are not removed by an upsert. -/
theorem exists_upsert {merge : Session → Session} (hmerge : ∀ s, (merge s).id = s.id)
    (h : ∃ s ∈ db.sessions, s.id = id) :
    ∃ s ∈ upsert Session.id row merge db.sessions, s.id = id := by
  obtain ⟨s, hs, hid⟩ := h
  unfold Table.upsert
  split_ifs
  · refine ⟨_, mem_updateWhere.2 ⟨s, hs, rfl⟩, ?_⟩
    split_ifs
    · exact (hmerge s).trans hid
    · exact hid
  · exact ⟨s, List.mem_append_left _ hs, hid⟩

/-- A row that is not deleted can be read. -/
theorem Database.HasRow.readSession (hrows : db.HasRow id R) (hR : Unstamped R)
    (hdeleted : ∀ s, R s → s.isDeleted = false) :
    ∃ s, db.readSession id = .ok s ∧ s.id = id ∧ R s := by
  obtain ⟨⟨s, hs, hid⟩, hall⟩ := hrows
  cases hfind : db.sessions.find? fun s => s.id = id && !s.isDeleted with
  | none =>
      have hnone := List.find?_eq_none.1 hfind s hs
      simp [hid, hdeleted s (hall s hs hid)] at hnone
  | some found =>
      have hread : db.getSession id = .ok found := by rw [Database.getSession, hfind]
      obtain ⟨hmem, hid', -⟩ := getSession_mem hread
      refine ⟨{ found with version := 0 }, ?_, hid',
        hR found 0 found.createdAt found.updatedAt (hall found hmem hid')⟩
      rw [Database.readSession, hread]
      rfl

/-- A write of a row that is there. -/
theorem Database.HasRow.written (hrows : db.HasRow id R) (hid : row.id = id) (hR : Unstamped R')
    (hrow : R' row) (h : db.writeSession row = .ok db') : db'.HasRow id R' := by
  obtain ⟨hexists, -⟩ := hrows
  unfold Database.writeSession at h
  split_ifs at h
  obtain rfl := Except.ok.inj h
  refine ⟨exists_upsert (fun _ => rfl) hexists, fun s hs hsid => ?_⟩
  -- the row is there, so it is merged
  obtain ⟨old, hold, hold'⟩ := hexists
  have hfound : (find Session.id row.id db.sessions).isSome := by
    rw [Option.isSome_iff_ne_none]
    intro hnone
    exact find_eq_none.1 hnone old hold (hold'.trans hid.symm)
  unfold Table.upsert at hs
  rw [if_pos hfound] at hs
  obtain ⟨old, hold, rfl⟩ := mem_updateWhere.1 hs
  split_ifs with hkey
  · have hkey' : old.id = row.id := of_decide_eq_true hkey
    rw [hkey']
    exact hR row old.version old.createdAt row.updatedAt hrow
  · rw [if_neg hkey] at hsid
    exact absurd (decide_eq_true (hsid.trans hid.symm)) hkey

/-- A write that keeps a property of the rows. -/
theorem HasRow.writeSession (hR : Unstamped R) (hrows : db.HasRow id R)
    (hrow : row.id = id → R row) (h : db.writeSession row = .ok db') : db'.HasRow id R := by
  unfold Database.writeSession at h
  split_ifs at h
  obtain rfl := Except.ok.inj h
  refine ⟨exists_upsert (fun _ => rfl) hrows.1, fun s hs hid => ?_⟩
  rcases mem_upsert hs with rfl | hs | ⟨old, -, hold, rfl⟩
  · exact hR row 1 row.createdAt row.updatedAt (hrow hid)
  · exact hrows.2 s hs hid
  · rw [hold]
    exact hR row old.version old.createdAt row.updatedAt (hrow (hold.symm.trans hid))

end Rows

/-- How a call of the store ends. -/
theorem StoreOp.call_cases (op : StoreOp) (fault : Fault) (clock : Time) (db : Database) :
    ((op.call fault clock db).2 = db ∧ ∃ e, (op.call fault clock db).1 = .error e) ∨
      ∃ v db', op.run clock db = .ok (v, db') ∧ (op.call fault clock db).2 = db' ∧
        ((op.call fault clock db).1 = .ok v ∨ ∃ e, (op.call fault clock db).1 = .error e) := by
  unfold StoreOp.call
  cases hrun : op.run clock db with
  | error e =>
      left
      cases fault <;> exact ⟨rfl, _, rfl⟩
  | ok r =>
      obtain ⟨v, db'⟩ := r
      cases fault with
      | none => exact .inr ⟨v, db', rfl, rfl, .inl rfl⟩
      | refused message => exact .inl ⟨rfl, _, rfl⟩
      | lost message => exact .inr ⟨v, db', rfl, rfl, .inr ⟨_, rfl⟩⟩

/-! ## A request alone -/

/-- The setting of a request that runs alone, with a journal of its calls. -/
abbrev cleaning (guard : Op → Answer → Database → Prop) :
    Setting Op Reply (Journal Reply Database) Answer :=
  (Setting.sequential handleLive guard).journaled fun _ _ => True

/-- A program that removes nothing and keeps a property of the rows with an id. -/
def KeepsRows (id : String) (R : Session → Prop) {α : Type} (p : Task α) : Prop :=
  ∀ j : Journal Reply Database, j.state.HasRow id R →
    (cleaning fun _ _ _ => True).Safe
      (fun _ j' => (Removed j'.events ↔ Removed j.events) ∧ j'.state.HasRow id R) p j

section Calls

variable {guard : Op → Answer → Database → Prop} {α β : Type} {id : String} {R : Session → Prop}

theorem safe_pure {post : α → Journal Reply Database → Prop} {a : α} {j : Journal Reply Database}
    (h : post a j) : (cleaning guard).Safe post (pure a) j := by
  rintro ⟨events, db⟩ ⟨hevents, hstate⟩
  dsimp only at hevents
  subst hevents
  obtain rfl : j.state = db := hstate
  exact h

/-- The rule for a call. -/
theorem safe_perform {op : Op} {post : Reply op → Journal Reply Database → Prop}
    {j : Journal Reply Database}
    (h : ∀ a, guard op a j.state → post (handleLive op a j.state).1
      ⟨j.events ++ [⟨op, (handleLive op a j.state).1⟩], (handleLive op a j.state).2⟩) :
    (cleaning guard).Safe post (Program.perform op) j := by
  refine Setting.Safe.perform ?_
  rintro ⟨events, db⟩ ⟨hevents, hstate⟩ a ha
  dsimp only at hevents
  subst hevents
  obtain rfl : j.state = db := hstate
  refine ⟨Setting.journaled_guar trivial, ?_⟩
  rintro ⟨events, db⟩ ⟨hevents, hstate⟩
  dsimp only at hevents
  subst hevents
  cases hstate
  exact h a ha

theorem KeepsRows.pure (a : α) : KeepsRows id R (pure a : Task α) :=
  fun _ h => safe_pure ⟨.rfl, h⟩

theorem KeepsRows.bind {p : Task α} {f : α → Task β} (hp : KeepsRows id R p)
    (hf : ∀ a, KeepsRows id R (f a)) : KeepsRows id R (p >>= f) := by
  intro j h
  refine Setting.Safe.bind (hp j h) fun a j' hj' => ?_
  exact (hf a j' hj'.2).mono fun b j'' hj'' => ⟨hj''.1.trans hj'.1, hj''.2⟩

/-- The rule for a call of the store or the clock. -/
theorem KeepsRows.perform {op : Op} (hremoves : ∀ reply, ¬removes ⟨op, reply⟩)
    (hstate : ∀ a db, db.HasRow id R → (handleLive op a db).2.HasRow id R) :
    KeepsRows id R (Program.perform op) := by
  refine fun j h => safe_perform fun a _ => ⟨?_, hstate a j.state h⟩
  rw [removed_append]
  exact or_iff_left (hremoves _)

theorem KeepsRows.now : KeepsRows id R Task.now :=
  KeepsRows.perform (fun _ hnot => hnot) fun _ _ h => h

theorem not_removes_store (detached : Bool) (op : StoreOp) (reply : Reply (.store detached op)) :
    ¬removes ⟨.store detached op, reply⟩ := fun hnot => hnot

/-- A read of a session changes nothing, and what it returns is a row. -/
theorem safe_getSession (hR : Unstamped R) (detached : Bool) (j : Journal Reply Database)
    (h : j.state.HasRow id R) :
    (cleaning fun _ _ _ => True).Safe (fun r j' => (Removed j'.events ↔ Removed j.events) ∧
      j'.state.HasRow id R ∧ ∀ s, r = .ok s → s.id = id ∧ R s)
      (Task.store detached (.getSession id)) j := by
  refine safe_perform fun a _ => ?_
  rw [removed_append, or_iff_left (not_removes_store detached _ _), handleLive_store]
  refine ⟨.rfl, ?_⟩
  rcases StoreOp.call_cases (.getSession id) a.fault a.now j.state with
    ⟨hstate, e, he⟩ | ⟨v, db', hrun, hstate, hreply⟩
  · rw [he, hstate]
    exact ⟨h, fun s hs => by cases hs⟩
  · obtain ⟨found, hread, hfound⟩ := Transaction.map_eq_ok.1 hrun
    obtain ⟨rfl, rfl⟩ := Prod.mk.inj hfound
    rw [hstate]
    refine ⟨h, fun s hs => ?_⟩
    rcases hreply with hreply | ⟨e, hreply⟩
    · obtain rfl := Except.ok.inj (hreply.symm.trans hs)
      exact readSession_mem hR h hread
    · cases hreply.symm.trans hs

/-- A write of a row with the property. -/
theorem KeepsRows.upsertSession (hR : Unstamped R) (detached : Bool) {row : Session}
    (hrow : row.id = id → R row) : KeepsRows id R (Task.store detached (.upsertSession row)) := by
  refine KeepsRows.perform (not_removes_store detached _) fun a db h => ?_
  rw [handleLive_store]
  rcases StoreOp.call_cases (.upsertSession row) a.fault a.now db with
    ⟨hstate, -⟩ | ⟨v, db', hrun, hstate, -⟩
  · rw [hstate]
    exact h
  · obtain ⟨db'', hwrite, hdb⟩ := Transaction.map_eq_ok.1 hrun
    obtain ⟨-, rfl⟩ := Prod.mk.inj hdb
    rw [hstate]
    exact HasRow.writeSession hR h hrow hwrite

theorem timed_bind {β : Type} (f : Time → Session → Session) (current : Session)
    (k : Except String Session → Task β) :
    (Handler.timed f current >>= k) = Task.now >>= fun now => k (.ok (f now current)) := rfl

/-- **An update keeps what its change keeps.** -/
theorem KeepsRows.updatePersistedSession (hR : Unstamped R) (detached : Bool)
    {f : Time → Session → Session} (hf : ∀ now s, s.id = id → R s → R (f now s)) :
    KeepsRows id R (Handler.updatePersistedSession detached id (Handler.timed f)) := by
  unfold Handler.updatePersistedSession
  split_ifs
  · exact KeepsRows.pure _
  generalize 3 = attempts
  induction attempts with
  | zero => exact KeepsRows.pure _
  | succ attempts ih =>
      intro j h
      unfold Handler.updateAttempts
      refine Setting.Safe.bind (safe_getSession hR detached j h) fun r j' hj' => ?_
      obtain ⟨hremoved, hrows, hread⟩ := hj'
      suffices hrest : KeepsRows id R _ from
        (hrest j' hrows).mono fun _ j'' hj'' => ⟨hj''.1.trans hremoved, hj''.2⟩
      cases r with
      | error e => exact KeepsRows.pure _
      | ok current =>
          obtain ⟨hid, hcurrent⟩ := hread current rfl
          dsimp only
          rw [timed_bind]
          refine KeepsRows.bind KeepsRows.now fun now => KeepsRows.bind KeepsRows.now fun stamp => ?_
          have hnext := hf now current hid hcurrent
          refine KeepsRows.bind (KeepsRows.upsertSession hR detached fun _ =>
            hR _ _ _ _ hnext) fun r => ?_
          cases r with
          | ok _ => exact KeepsRows.pure _
          | error e =>
              dsimp only
              split_ifs
              · exact ih
              · exact KeepsRows.pure _

end Calls

/-! ## The steps of the request -/

section Steps

variable {id : String} {R : Session → Prop} {h : Handler}

/-- The release of a lease does not touch the outcome. -/
theorem KeepsRows.releaseOf {P : SessionOutcome → Prop} {persisted : Option Session}
    (hid : ∀ p ∈ persisted, p.id = id) (detached : Bool) :
    KeepsRows id (fun s => P s.outcome) (Handler.releaseOf persisted detached) := by
  cases persisted with
  | none => exact KeepsRows.pure _
  | some p =>
      obtain rfl := hid p rfl
      unfold Handler.releaseOf Handler.releaseSessionLease
      refine KeepsRows.bind ?_ fun _ => KeepsRows.pure _
      exact KeepsRows.updatePersistedSession (fun _ _ _ _ hs => hs) detached fun _ _ _ hs => hs

/-- The outcome that a checkpoint leaves. -/
def SessionOutcome.checkpoint (now : Time) (index : Int) (finalStatus : Option ExecutionStatus)
    (finalSummary : Option Json) (o : SessionOutcome) : SessionOutcome where
  status := finalStatus.getD o.status
  result := (finalSummary.map Json.marshal).getD o.result
  completedAt := if finalStatus.isSome then some now else o.completedAt
  checkpointIndex := index

/-- A checkpoint keeps what its effect on the outcome keeps. -/
theorem KeepsRows.checkpointOf {P : SessionOutcome → Prop} {persisted : Option Session}
    (hid : ∀ p ∈ persisted, p.id = id) {detached : Bool} {phase : SessionPhase}
    {finalStatus : Session → Option ExecutionStatus} {finalSummary : Option Json}
    (hP : ∀ p ∈ persisted, ∀ now o, P o →
      P (o.checkpoint now p.checkpointIndex (finalStatus p) finalSummary)) :
    KeepsRows id (fun s => P s.outcome)
      (h.checkpointOf persisted detached phase finalStatus finalSummary) := by
  cases persisted with
  | none => exact KeepsRows.pure _
  | some p =>
      obtain rfl := hid p rfl
      unfold Handler.checkpointOf Handler.persistCheckpoint
      refine KeepsRows.bind ?_ fun _ => KeepsRows.pure _
      exact KeepsRows.updatePersistedSession (fun _ _ _ _ hs => hs) detached
        fun now s _ hs => hP p rfl now s.outcome hs

variable {o : SessionOutcome}

/-- Nothing was removed, and the rows are as they were. -/
def Before (id : String) (o : SessionOutcome) (j : Journal Reply Database) : Prop :=
  ¬Removed j.events ∧ j.state.HasRow id fun s => s.outcome = o

/-- The resources were removed, and the rows are as they were. -/
def After (id : String) (o : SessionOutcome) (j : Journal Reply Database) : Prop :=
  Removed j.events ∧ j.state.HasRow id fun s => s.outcome = o

/-- What the row says is what is written after a removal: the summary of no test, and no time of
    completion that would be replaced. -/
def SessionOutcome.Unfinished (o : SessionOutcome) : Prop :=
  o.result = Json.marshal (summarizeResults []) ∧ (o.completedAt = none ∨ o.status.text = "")

/-- What the request ends with. -/
def Concluded (id : String) (o : SessionOutcome) (j : Journal Reply Database) : Prop :=
  (¬Removed j.events → j.state.HasRow id fun s => o.KeepsSummary s.outcome) ∧
    (o.Unfinished → Removed j.events → j.state.HasRow id fun s => o.Keeps s.outcome)

theorem Before.concluded {j : Journal Reply Database} (hj : Before id o j) : Concluded id o j := by
  refine ⟨fun _ => hj.2.mono fun s hs => ?_, fun _ hremoved => absurd hremoved hj.1⟩
  subst hs
  exact ⟨rfl, rfl⟩

/-- The session that was found is the one with the id and the outcome. -/
def Finds (id : String) (o : SessionOutcome) (persisted : Option Session) : Prop :=
  ∀ p ∈ persisted, p.id = id ∧ p.outcome = o

theorem KeepsRows.safe {α : Type} {p : Task α} {j : Journal Reply Database}
    {post : α → Journal Reply Database → Prop} (hp : KeepsRows id R p)
    (hj : j.state.HasRow id R)
    (hpost : ∀ a j', (Removed j'.events ↔ Removed j.events) → j'.state.HasRow id R → post a j') :
    (cleaning fun _ _ _ => True).Safe post p j :=
  (hp j hj).mono fun a j' hj' => hpost a j' hj'.1 hj'.2

/-- The checkpoint before the removal changes nothing of the outcome. -/
theorem safe_markCleaningUp {persisted : Option Session} (hfinds : Finds id o persisted)
    {j : Journal Reply Database} (hj : Before id o j) :
    (cleaning fun _ _ _ => True).Safe (fun _ j' => Before id o j')
      (h.checkpointOf persisted false .cleaningUp (fun _ => none) none) j := by
  refine KeepsRows.safe (KeepsRows.checkpointOf (P := fun o' => o' = o)
    (fun p hp => (hfinds p hp).1) ?_) hj.2 fun _ j' hremoved hrows => ?_
  · rintro p hp now _ rfl
    obtain ⟨-, houtcome⟩ := hfinds p hp
    rw [← houtcome]
    rfl
  · exact ⟨fun hr => hj.1 (hremoved.1 hr), hrows⟩

/-- After a failed removal the summary and the index are kept. -/
theorem safe_failCleanUp {persisted : Option Session} (hfinds : Finds id o persisted)
    {j : Journal Reply Database} (hj : Before id o j) :
    (cleaning fun _ _ _ => True).Safe (fun _ j' => Concluded id o j')
      (h.failCleanUp persisted) j := by
  have hkeeps : KeepsRows id (fun s => o.KeepsSummary s.outcome) (h.failCleanUp persisted) := by
    refine KeepsRows.bind (KeepsRows.checkpointOf (P := o.KeepsSummary)
      (fun p hp => (hfinds p hp).1) ?_) fun _ =>
        KeepsRows.releaseOf (fun p hp => (hfinds p hp).1) true
    intro p hp now o' ho'
    obtain ⟨-, houtcome⟩ := hfinds p hp
    refine ⟨ho'.1, ?_⟩
    rw [← houtcome]
    rfl
  refine hkeeps.safe (hj.concluded.1 hj.1) fun _ j' hremoved hrows => ?_
  exact ⟨fun _ => hrows, fun _ hr => absurd (hremoved.1 hr) hj.1⟩

/-- After a removal an unfinished session is as it was. -/
theorem safe_finishCleanUp {persisted : Option Session} (hfinds : Finds id o persisted)
    (detached : Bool) {j : Journal Reply Database} (hj : After id o j) :
    (cleaning fun _ _ _ => True).Safe (fun _ j' => Concluded id o j')
      (h.finishCleanUp detached persisted) j := by
  have hkeeps : ∀ {P : SessionOutcome → Prop}, (∀ p ∈ persisted, ∀ now o', P o' →
      P (o'.checkpoint now p.checkpointIndex (Handler.statusGiven p)
        (some (summarizeResults [])))) →
      KeepsRows id (fun s => P s.outcome) (h.finishCleanUp detached persisted) := fun hP =>
    KeepsRows.bind (KeepsRows.checkpointOf (fun p hp => (hfinds p hp).1) hP) fun _ =>
      KeepsRows.releaseOf (fun p hp => (hfinds p hp).1) false
  by_cases hplain : o.Unfinished
  · refine (hkeeps (P := o.Keeps) ?_).safe ?_ fun _ j' hremoved hrows => ?_
    · intro p hp now o' ho'
      obtain ⟨-, rfl⟩ := hfinds p hp
      obtain ⟨hresult, hcompleted⟩ := hplain
      unfold Handler.statusGiven
      by_cases hstatus : p.status.text = ""
      · rw [if_pos hstatus]
        exact ⟨⟨hresult.symm, rfl⟩, ho'.2⟩
      · rw [if_neg hstatus]
        exact ⟨⟨hresult.symm, rfl⟩, rfl, fun hset => absurd (hcompleted.resolve_left hset) hstatus⟩
    · refine hj.2.mono fun s hs => ?_
      subst hs
      exact ⟨⟨rfl, rfl⟩, rfl, fun _ => rfl⟩
    · exact ⟨fun hr => absurd (hremoved.2 hj.1) hr, fun _ _ => hrows⟩
  · refine (hkeeps (P := fun _ => True) fun _ _ _ _ _ => trivial).safe
      (hj.2.mono fun _ _ => trivial) fun _ j' hremoved _ => ?_
    exact ⟨fun hr => absurd (hremoved.2 hj.1) hr, fun hplain' => absurd hplain' hplain⟩

/-- A removal: it succeeds, or everything is as it was. -/
def Removal {α : Type} (succeeded : α → Prop) (id : String) (o : SessionOutcome) (r : α)
    (j : Journal Reply Database) : Prop :=
  (succeeded r → After id o j) ∧ (¬succeeded r → Before id o j)

theorem safe_removal {op : Op} {succeeded : Reply op → Prop}
    (hremoves : ∀ reply, removes ⟨op, reply⟩ ↔ succeeded reply)
    (hstate : ∀ a db, (handleLive op a db).2 = db) {j : Journal Reply Database}
    (hj : Before id o j) :
    (cleaning fun _ _ _ => True).Safe (Removal succeeded id o) (Program.perform op) j := by
  refine safe_perform fun a _ => ⟨fun hr => ⟨?_, ?_⟩, fun hr => ⟨?_, ?_⟩⟩
  · exact removed_append.2 (.inr ((hremoves _).2 hr))
  · exact (hstate a j.state).symm ▸ hj.2
  · rw [removed_append, hremoves]
    exact not_or.2 ⟨hj.1, hr⟩
  · exact (hstate a j.state).symm ▸ hj.2

theorem safe_deleteSession (sessionId : String) {j : Journal Reply Database}
    (hj : Before id o j) :
    (cleaning fun _ _ _ => True).Safe (Removal (fun r => r.2 = none) id o)
      (Program.perform (Op.deleteSession sessionId)) j :=
  safe_removal (fun _ => .rfl) (fun _ _ => rfl) hj

theorem safe_cleanResources (sessionId : String) {j : Journal Reply Database}
    (hj : Before id o j) :
    (cleaning fun _ _ _ => True).Safe (Removal (· = none) id o)
      (Program.perform (Op.cleanResources sessionId)) j :=
  safe_removal (fun _ => .rfl) (fun _ _ => rfl) hj

theorem safe_cleanupResources (sessionId : String) :
    ∀ (attempts : ℕ) {j : Journal Reply Database}, Before id o j →
      (cleaning fun _ _ _ => True).Safe (Removal (· = none) id o)
        (Handler.cleanupPersistedSessionResources sessionId (attempts + 1)) j := by
  intro attempts
  induction attempts with
  | zero => exact fun hj => safe_cleanResources sessionId hj
  | succ attempts ih =>
      intro j hj
      unfold Handler.cleanupPersistedSessionResources
      refine Setting.Safe.bind (safe_cleanResources sessionId hj) fun r j' hj' => ?_
      cases r with
      | none => exact safe_pure hj'
      | some e =>
          have hbefore := hj'.2 (by simp)
          have hwait : (cleaning fun _ _ _ => True).Safe (fun _ j'' => Before id o j'')
              (Program.perform Op.wait) j' := by
            refine safe_perform fun a _ => ⟨?_, hbefore.2⟩
            rw [removed_append]
            exact not_or.2 ⟨hbefore.1, fun hnot => hnot⟩
          refine Setting.Safe.bind hwait fun r j'' hj'' => ?_
          cases r with
          | some cause => exact safe_pure ⟨fun hr => (by cases hr), fun _ => hj''⟩
          | none => exact ih hj''

/-- The lookup finds the row of the backend session, or none. -/
theorem safe_resolve {sessionId : String} {j : Journal Reply Database} (hj : Before id o j)
    (hfound : ∀ p, j.state.getSessionByBackendSessionId sessionId = .ok p → p.id = id ∧
      p.outcome = o) :
    (cleaning fun _ _ _ => True).Safe (fun r j' => Finds id o r ∧ Before id o j')
      (Handler.resolvePersistedSession sessionId {}) j := by
  unfold Handler.resolvePersistedSession
  split_ifs
  · exact safe_pure ⟨fun p hp => (by cases hp), hj⟩
  have hlookup : (cleaning fun _ _ _ => True).Safe
      (fun r j' => (∀ p, r = .ok p → p.id = id ∧ p.outcome = o) ∧ Before id o j')
      (Task.store false (.getSessionByBackendSessionId sessionId)) j := by
    refine safe_perform fun a _ => ?_
    unfold Before
    rw [removed_append, or_iff_left (not_removes_store false _ _), handleLive_store]
    rcases StoreOp.call_cases (.getSessionByBackendSessionId sessionId) a.fault a.now j.state with
      ⟨hstate, e, he⟩ | ⟨v, db', hrun, hstate, hreply⟩
    · rw [he, hstate]
      exact ⟨fun p hp => (by cases hp), hj⟩
    · obtain ⟨found, hread, hpair⟩ := Transaction.map_eq_ok.1 hrun
      obtain ⟨rfl, rfl⟩ := Prod.mk.inj hpair
      rw [hstate]
      refine ⟨fun p hp => ?_, hj⟩
      rcases hreply with hreply | ⟨e, hreply⟩
      · obtain rfl := Except.ok.inj (hreply.symm.trans hp)
        exact hfound _ hread
      · cases hreply.symm.trans hp
  refine Setting.Safe.bind hlookup fun r j' hj' => ?_
  cases r with
  | ok p =>
      refine safe_pure ⟨fun q hq => ?_, hj'.2⟩
      obtain rfl := Option.some.inj hq
      exact hj'.1 _ rfl
  | error e => exact safe_pure ⟨fun p hp => (by cases hp), hj'.2⟩

/-- **What the request concludes with**, however its calls end. -/
theorem safe_cleanUpSession {sessionId : String} (granted active : Bool)
    {j : Journal Reply Database} (hj : Before id o j)
    (hfound : ∀ p, j.state.getSessionByBackendSessionId sessionId = .ok p → p.id = id ∧
      p.outcome = o) :
    (cleaning fun _ _ _ => True).Safe (fun _ j' => Concluded id o j')
      (h.cleanUpSession granted active sessionId) j := by
  unfold Handler.cleanUpSession
  split_ifs
  swap
  · exact safe_pure hj.concluded
  refine Setting.Safe.bind (safe_resolve hj hfound) fun persisted j hpersisted => ?_
  obtain ⟨hfinds, hj⟩ := hpersisted
  refine Setting.Safe.bind (safe_markCleaningUp hfinds hj) fun _ j hj => ?_
  refine Setting.Safe.bind (safe_deleteSession sessionId hj) fun r j hr => ?_
  obtain ⟨activities, - | e⟩ := r
  · exact Setting.Safe.bind (safe_finishCleanUp hfinds false (hr.1 rfl)) fun _ j hj =>
      safe_pure hj
  have hbefore := hr.2 (by simp)
  unfold Handler.recoverCleanUp
  dsimp only
  split_ifs
  · exact Setting.Safe.bind (safe_failCleanUp hfinds hbefore) fun _ j hj => safe_pure hj
  cases persisted with
  | none => exact safe_pure hbefore.concluded
  | some p =>
      refine Setting.Safe.bind (safe_cleanupResources p.id 2 hbefore) fun r j hr => ?_
      cases r with
      | some err =>
          refine Setting.Safe.bind (safe_failCleanUp hfinds (hr.2 (by simp))) fun _ j hj => ?_
          exact safe_pure hj
      | none =>
          refine Setting.Safe.bind (safe_finishCleanUp hfinds true (hr.1 rfl)) fun _ j hj => ?_
          exact safe_pure hj

end Steps

/-! ## A removal that nothing disturbs -/

/-- The answer to every call of a request that nothing disturbs. -/
def smooth (t : Time) : Answer := { now := t }

/-- The row can be read and written, and its outcome has the property. -/
structure Intact (id workflowId : String) (P : SessionOutcome → Prop) (db : Database) : Prop where
  workflow : db.workflowExists workflowId = true
  row : db.HasRow id fun s => s.fits = true ∧ s.workflowId = workflowId ∧ s.isDeleted = false ∧
    P s.outcome

/-- A change of a row that leaves it one that can be written. -/
structure Writable (P P' : SessionOutcome → Prop) (f : Session → Session) : Prop where
  id : ∀ s, (f s).id = s.id
  workflowId : ∀ s, (f s).workflowId = s.workflowId
  isDeleted : ∀ s, (f s).isDeleted = s.isDeleted
  fits : ∀ s, P s.outcome → s.fits = true → (f s).fits = true
  outcome : ∀ s, P s.outcome → P' (f s).outcome

section Smooth

variable {id workflowId : String} {P P' : SessionOutcome → Prop} {db : Database} {t : Time}
  {h : Handler}

/-- The setting in which every call is answered like this. -/
abbrev smoothly (t : Time) : Setting Op Reply (Journal Reply Database) Answer :=
  cleaning fun _ a _ => a = smooth t

theorem Intact.readSession (hdb : Intact id workflowId P db) :
    ∃ s, db.readSession id = .ok s ∧ s.id = id ∧ s.fits = true ∧ s.workflowId = workflowId ∧
      s.isDeleted = false ∧ P s.outcome :=
  hdb.row.readSession (fun _ _ _ _ hs => hs) fun _ hs => hs.2.2.1

theorem Intact.writeSession (hdb : Intact id workflowId P db) (P' : SessionOutcome → Prop)
    (row : Session) (hid : row.id = id)
    (hfits : row.fits = true) (hworkflow : row.workflowId = workflowId)
    (hdeleted : row.isDeleted = false) (hP : P' row.outcome) :
    ∃ db', db.writeSession row = .ok db' ∧ Intact id workflowId P' db' := by
  have hwrite : db.writeSession row = .ok { db with
      sessions := upsert Session.id { row with version := 1 }
        (fun old => { row with id := old.id, createdAt := old.createdAt, version := old.version })
        db.sessions } := by
    unfold Database.writeSession
    rw [if_neg (by simp [hfits]), if_neg (by simp [hworkflow, hdb.workflow])]
  exact ⟨_, hwrite, hdb.workflow, hdb.row.written hid (fun _ _ _ _ hs => hs)
    ⟨hfits, hworkflow, hdeleted, hP⟩ hwrite⟩

theorem safe_smooth {op : Op} {post : Reply op → Journal Reply Database → Prop}
    {j : Journal Reply Database}
    (hpost : post (handleLive op (smooth t) j.state).1
      ⟨j.events ++ [⟨op, (handleLive op (smooth t) j.state).1⟩],
        (handleLive op (smooth t) j.state).2⟩) :
    (smoothly t).Safe post (Program.perform op) j := by
  refine safe_perform fun a ha => ?_
  subst ha
  exact hpost

/-- A call of the store that succeeds. -/
theorem safe_smooth_store {detached : Bool} {op : StoreOp}
    {post : Except DbError op.Value → Journal Reply Database → Prop} {j : Journal Reply Database}
    {v : op.Value} {db' : Database} (hrun : op.run t j.state = .ok (v, db'))
    (hpost : ∀ events, (Removed j.events → Removed events) → post (.ok v) ⟨events, db'⟩) :
    (smoothly t).Safe post (Task.store detached op) j := by
  refine safe_smooth ?_
  have hcall : handleLive (.store detached op) (smooth t) j.state = (.ok v, db') := by
    rw [handleLive_store]
    show Fault.none.apply j.state (op.run t j.state) = _
    rw [hrun]
    rfl
  rw [hcall]
  exact hpost _ fun hr => removed_append.2 (.inl hr)

/-- What was removed stays removed, and the row is intact. -/
def Goes (id workflowId : String) (P : SessionOutcome → Prop) (removed : Prop)
    (j : Journal Reply Database) : Prop :=
  (removed → Removed j.events) ∧ Intact id workflowId P j.state

/-- **An update that nothing disturbs is made.** -/
theorem safe_smooth_update {f : Time → Session → Session} (hf : Writable P P' (f t))
    (hid : id ≠ "") (detached : Bool) {removed : Prop} {j : Journal Reply Database}
    (hj : Goes id workflowId P removed j) :
    (smoothly t).Safe (fun _ j => Goes id workflowId P' removed j)
      (Handler.updatePersistedSession detached id (Handler.timed f)) j := by
  unfold Handler.updatePersistedSession
  rw [if_neg hid]
  unfold Handler.updateAttempts
  obtain ⟨s, hread, hsid, hfits, hworkflow, hdeleted, hP⟩ := hj.2.readSession
  -- nothing fails and nobody interferes: what is read is what is written
  have hget : (StoreOp.getSession id).run t j.state = .ok (s, j.state) := by
    rw [StoreOp.run, hread]
    rfl
  have hnow : ∀ {j : Journal Reply Database}, Goes id workflowId P removed j →
      (smoothly t).Safe (fun now j => now = t ∧ Goes id workflowId P removed j) Task.now j :=
    fun hj => safe_smooth ⟨rfl, fun hr => removed_append.2 (.inl (hj.1 hr)), hj.2⟩
  have hstored : (smoothly t).Safe (fun r j => r = .ok s ∧ Goes id workflowId P removed j)
      (Task.store detached (.getSession id)) j :=
    safe_smooth_store hget fun events hevents => ⟨rfl, fun hr => hevents (hj.1 hr), hj.2⟩
  refine Setting.Safe.bind hstored fun r j hr => ?_
  obtain ⟨rfl, hj⟩ := hr
  dsimp only
  rw [timed_bind]
  refine Setting.Safe.bind (hnow hj) fun now j hr => ?_
  obtain ⟨rfl, hj⟩ := hr
  refine Setting.Safe.bind (hnow hj) fun stamp j hr => ?_
  obtain ⟨-, hj⟩ := hr
  obtain ⟨db', hwrite, hdb'⟩ := hj.2.writeSession P'
    { f now s with version := s.version + 1, updatedAt := stamp } ((hf.id s).trans hsid)
    (hf.fits s hP hfits) ((hf.workflowId s).trans hworkflow) ((hf.isDeleted s).trans hdeleted)
    (hf.outcome s hP)
  have hput : (StoreOp.upsertSession
      { f now s with version := s.version + 1, updatedAt := stamp }).run now j.state
        = .ok ((), db') := by
    rw [StoreOp.run, hwrite]
    rfl
  have hwritten : (smoothly now).Safe (fun r j => r = .ok () ∧ Goes id workflowId P' removed j)
      (Task.store detached (.upsertSession
        { f now s with version := s.version + 1, updatedAt := stamp })) j :=
    safe_smooth_store hput fun events hevents => ⟨rfl, fun hr => hevents (hj.1 hr), hdb'⟩
  refine Setting.Safe.bind hwritten fun r j hr => ?_
  obtain ⟨rfl, hj⟩ := hr
  exact safe_pure hj

/-- A checkpoint that nothing disturbs. -/
theorem safe_smooth_checkpoint (P' : SessionOutcome → Prop) {p : Session} (hpid : p.id = id)
    (hid : id ≠ "") (detached : Bool)
    {phase : SessionPhase} (hphase : fitsVarchar 64 phase.text = true)
    {finalStatus : Session → Option ExecutionStatus} {finalSummary : Option Json}
    (hstatus : ∀ o, P o → (finalStatus p).getD o.status = o.status)
    (hP : ∀ o, P o → P' (o.checkpoint t p.checkpointIndex (finalStatus p) finalSummary))
    {removed : Prop} {j : Journal Reply Database} (hj : Goes id workflowId P removed j) :
    (smoothly t).Safe (fun _ j => Goes id workflowId P' removed j)
      (h.checkpointOf (some p) detached phase finalStatus finalSummary) j := by
  subst hpid
  unfold Handler.checkpointOf Handler.persistCheckpoint
  suffices hf : Writable P P' _ from
    Setting.Safe.bind (safe_smooth_update hf hid detached hj) fun _ j hj => safe_pure hj
  refine ⟨fun _ => rfl, fun _ => rfl, fun _ => rfl, fun s hs hfits => ?_, fun s hs => hP _ hs⟩
  have hsame : (finalStatus p).getD s.status = s.status := hstatus s.outcome hs
  unfold Session.fits at hfits ⊢
  dsimp only
  rw [hsame, hphase]
  simp only [Bool.and_eq_true] at hfits ⊢
  exact ⟨⟨hfits.1.1, trivial⟩, hfits.2⟩

theorem safe_smooth_release {p : Session} (hpid : p.id = id) (hid : id ≠ "") (detached : Bool)
    {removed : Prop} {j : Journal Reply Database} (hj : Goes id workflowId P removed j) :
    (smoothly t).Safe (fun _ j => Goes id workflowId P removed j)
      (Handler.releaseOf (some p) detached) j := by
  subst hpid
  unfold Handler.releaseOf Handler.releaseSessionLease
  suffices hf : Writable P P _ from
    Setting.Safe.bind (safe_smooth_update hf hid detached hj) fun _ j hj => safe_pure hj
  refine ⟨fun _ => rfl, fun _ => rfl, fun _ => rfl, fun s _ hfits => ?_, fun s hs => hs⟩
  unfold Session.fits at hfits ⊢
  simp only [List.all_cons, Bool.and_eq_true] at hfits ⊢
  obtain ⟨⟨⟨⟨hid, hproject, hrun, hworkflow, hscenario, hname, hbackend, -, hclient⟩, hstatus⟩,
    hphase⟩, herror⟩ := hfits
  have hempty : fitsVarchar 255 "" = true := by decide
  exact ⟨⟨⟨⟨hid, hproject, hrun, hworkflow, hscenario, hname, hbackend, hempty, hclient⟩, hstatus⟩,
    hphase⟩, herror⟩

end Smooth

/-! ## The row of a session -/

theorem newest_mem {rows : List Session} {s : Session} (h : Database.newest rows = some s) :
    s ∈ rows := by
  induction rows with
  | nil => cases h
  | cons r rest ih =>
      unfold Database.newest at h
      cases hrest : Database.newest rest with
      | none =>
          rw [hrest] at h
          obtain rfl := Option.some.inj h
          exact List.mem_cons_self
      | some t =>
          rw [hrest] at h
          dsimp only at h
          split_ifs at h
          · obtain rfl := Option.some.inj h
            exact List.mem_cons_self
          · obtain rfl := Option.some.inj h
            exact List.mem_cons_of_mem _ (ih hrest)

/-- The session has a row, which the lookup by the backend session finds. Ids are a key, and what
    is stored fits its columns and refers to a workflow. -/
structure Persisted (db : Database) (sessionId : String) (row : Session) : Prop where
  keyed : Keyed Session.id db.sessions
  found : db.getSessionByBackendSessionId sessionId = .ok row
  named : sessionId ≠ "" ∧ row.id ≠ ""
  fits : row.fits = true
  workflow : db.workflowExists row.workflowId = true

section Request

variable {db : Database} {sessionId : String} {row : Session} {h : Handler}

theorem Persisted.intact (hrow : Persisted db sessionId row) :
    Intact row.id row.workflowId (· = row.outcome) db := by
  have hfound := hrow.found
  unfold Database.getSessionByBackendSessionId at hfound
  cases hnewest : Database.newest (db.sessions.filter fun s =>
      s.backendSessionId = sessionId && !s.isDeleted) with
  | none =>
      rw [hnewest] at hfound
      cases hfound
  | some stored =>
      rw [hnewest] at hfound
      obtain rfl := Except.ok.inj hfound
      obtain ⟨hmem, hlive⟩ := List.mem_filter.1 (newest_mem hnewest)
      simp only [Bool.and_eq_true, Bool.not_eq_true'] at hlive
      refine ⟨hrow.workflow, ⟨stored, hmem, rfl⟩, fun s hs hid => ?_⟩
      obtain rfl := hrow.keyed.eq_of_key hs hmem hid
      exact ⟨hrow.fits, rfl, hlive.2, rfl⟩

/-- What a removal that nothing disturbs leaves: the summary of no test, and the time of the
    request. -/
def SessionOutcome.Ended (o : SessionOutcome) (t : Time) (o' : SessionOutcome) : Prop :=
  o'.result = Json.marshal (summarizeResults []) ∧
    (o.status.text ≠ "" → o'.completedAt = some t)

/-- **A request that nothing disturbs** replaces the summary and the time of completion. -/
theorem safe_smooth_cleanUpSession (hrow : Persisted db sessionId row) (active : Bool) (t : Time) :
    (smoothly t).Safe
      (fun _ j => Removed j.events ∧ j.state.HasRow row.id fun s => row.outcome.Ended t s.outcome)
      (h.cleanUpSession true active sessionId) ⟨[], db⟩ := by
  have hlookup : (StoreOp.getSessionByBackendSessionId sessionId).run t db = .ok (row, db) := by
    rw [StoreOp.run, hrow.found]
    rfl
  have hresolve : (smoothly t).Safe
      (fun r j => r = some row ∧ Goes row.id row.workflowId (· = row.outcome) False j)
      (Handler.resolvePersistedSession sessionId {}) ⟨[], db⟩ := by
    unfold Handler.resolvePersistedSession
    rw [if_neg hrow.named.1]
    have hfound : (smoothly t).Safe
        (fun r j => r = .ok row ∧ Goes row.id row.workflowId (· = row.outcome) False j)
        (Task.store false (.getSessionByBackendSessionId sessionId)) ⟨[], db⟩ :=
      safe_smooth_store hlookup fun events _ => ⟨rfl, False.elim, hrow.intact⟩
    refine Setting.Safe.bind hfound fun r j hr => ?_
    obtain ⟨rfl, hj⟩ := hr
    exact safe_pure ⟨rfl, hj⟩
  unfold Handler.cleanUpSession
  rw [if_pos rfl]
  refine Setting.Safe.bind hresolve fun r j hr => ?_
  obtain ⟨rfl, hj⟩ := hr
  refine Setting.Safe.bind (safe_smooth_checkpoint (· = row.outcome) rfl hrow.named.2 false
    (by decide) (fun _ _ => rfl) ?_ hj) fun _ j hj => ?_
  · rintro _ rfl
    rfl
  -- the containers are removed before the final checkpoint is written
  have hdelete : (smoothly t).Safe
      (fun r j => r.2 = none ∧ Goes row.id row.workflowId (· = row.outcome) True j)
      (Program.perform (Op.deleteSession sessionId)) j :=
    safe_smooth ⟨rfl, fun _ => removed_append.2 (.inr rfl), hj.2⟩
  refine Setting.Safe.bind hdelete fun r j hr => ?_
  obtain ⟨activities, failure⟩ := r
  obtain ⟨hnone, hj⟩ := hr
  obtain rfl : failure = none := hnone
  suffices hfinish : (smoothly t).Safe
      (fun _ j => Goes row.id row.workflowId (row.outcome.Ended t) True j)
      (h.finishCleanUp false (some row)) j from
    Setting.Safe.bind hfinish fun _ j hj =>
      safe_pure ⟨hj.1 trivial, hj.2.row.mono fun s hs => hs.2.2.2⟩
  unfold Handler.finishCleanUp
  refine Setting.Safe.bind (safe_smooth_checkpoint (row.outcome.Ended t) rfl hrow.named.2
    false (by decide) ?_ ?_ hj) fun _ j hj => safe_smooth_release rfl hrow.named.2 false hj
  · rintro _ rfl
    unfold Handler.statusGiven
    split_ifs <;> rfl
  · rintro _ rfl
    refine ⟨rfl, fun hstatus => ?_⟩
    unfold Handler.statusGiven
    rw [if_neg (show ¬row.status.text = "" from hstatus)]
    rfl

/-- What happens in a request that runs alone. -/
abbrev Handler.cleanUpEvents (h : Handler) (granted active : Bool) (sessionId : String)
    (answers : List Answer) (db : Database) : List (Event Reply) :=
  (h.cleanUpSession granted active sessionId).events handleLive answers db

/-- A request with a removal that nothing disturbs. -/
theorem exists_cleanUp (h : Handler) (hrow : Persisted db sessionId row) (active : Bool)
    (t : Time) : ∃ answers response db',
      (h.cleanUpSession true active sessionId).run handleLive answers db = some (response, db') ∧
        Removed (h.cleanUpEvents true active sessionId answers db) ∧
          db'.HasRow row.id fun s => row.outcome.Ended t s.outcome := by
  obtain ⟨n, response, db', hrun⟩ := Program.exists_run handleLive (smooth t)
    (h.cleanUpSession true active sessionId) db
  have hended := Setting.Safe.finished (Setting.Run.of_answers
    (S := Setting.sequential handleLive fun _ a _ => a = smooth t)
    (fun op a ha s => List.eq_of_mem_replicate ha) hrun) (safe_smooth_cleanUpSession hrow active t)
  exact ⟨_, response, db', hrun, hended.1⟩

/-- What a request that runs alone concludes with. -/
theorem concluded_cleanUp (hrow : Persisted db sessionId row) {granted active : Bool}
    {answers : List Answer} {response : CleanUpResponse} {db' : Database}
    (hrun : (h.cleanUpSession granted active sessionId).run handleLive answers db
      = some (response, db')) :
    Concluded row.id row.outcome ⟨h.cleanUpEvents granted active sessionId answers db, db'⟩ := by
  have hbefore : Before row.id row.outcome ⟨[], db⟩ :=
    ⟨fun ⟨_, hmem, _⟩ => absurd hmem List.not_mem_nil, hrow.intact.row.mono fun s hs => hs.2.2.2⟩
  have hfound : ∀ p, db.getSessionByBackendSessionId sessionId = .ok p → p.id = row.id ∧
      p.outcome = row.outcome := by
    intro p hp
    obtain rfl := Except.ok.inj (hrow.found.symm.trans hp)
    exact ⟨rfl, rfl⟩
  exact (Setting.Safe.finished (Setting.Run.of_answers
    (S := Setting.sequential handleLive fun _ _ _ => True) (fun _ _ _ _ => trivial) hrun)
    (safe_cleanUpSession granted active hbefore hfound)).1

/-- **Cleaning up and the outcome.** However the calls of the request end, it keeps the summary and
    the index when nothing was removed. When the resources were removed it keeps the outcome in
    every case exactly if the summary was that of no test and there was no time of completion. -/
theorem cleanUp_keeps_iff (h : Handler) (active : Bool) (hrow : Persisted db sessionId row) :
    (∀ granted answers response db',
      (h.cleanUpSession granted active sessionId).run handleLive answers db
        = some (response, db') →
      ¬Removed (h.cleanUpEvents granted active sessionId answers db) →
        db'.HasRow row.id fun s => row.outcome.KeepsSummary s.outcome) ∧
    ((∀ granted answers response db',
      (h.cleanUpSession granted active sessionId).run handleLive answers db
        = some (response, db') →
      Removed (h.cleanUpEvents granted active sessionId answers db) →
        db'.HasRow row.id fun s => row.outcome.Keeps s.outcome) ↔ row.outcome.Unfinished) := by
  refine ⟨fun granted answers response db' hrun => (concluded_cleanUp hrow hrun).1, ?_, ?_⟩
  · intro hkeeps
    -- the request comes at another time than that of the completion
    obtain ⟨t, ht⟩ : ∃ t : Time, row.outcome.completedAt ≠ some t := by
      cases row.outcome.completedAt with
      | none => exact ⟨0, by simp⟩
      | some c =>
          refine ⟨c + 1, fun heq => ?_⟩
          exact absurd (Option.some.inj heq) (Int.lt_succ c).ne
    obtain ⟨answers, response, db', hrun, hremoved, hended⟩ := exists_cleanUp h hrow active t
    have hkept := hkeeps true answers response db' hrun hremoved
    obtain ⟨s, hs, hid⟩ := hended.1
    obtain ⟨hresult, hcompleted⟩ := hended.2 s hs hid
    obtain ⟨⟨hsummary, -⟩, -, htime⟩ := hkept.2 s hs hid
    refine ⟨hsummary.symm.trans hresult, ?_⟩
    by_contra hfinished
    obtain ⟨hset, hstatus⟩ := not_or.1 hfinished
    exact ht ((htime hset).symm.trans (hcompleted hstatus))
  · exact fun hunfinished granted answers response db' hrun =>
      (concluded_cleanUp hrow hrun).2 hunfinished

end Request

/-! ## A session with results -/

/-- A session whose tests have run. -/
def testedSession : Session :=
  { (default : Session) with
    id := "s1", workflowId := "w1", backendSessionId := "b1", status := .failed
    result := "\x7b\"failed\":1,\"passed\":2,\"retried\":0,\"total\":3\x7d"
    completedAt := some 100, checkpointIndex := 3 }

def testedDatabase : Database :=
  { workflows := [{ (default : Workflow) with id := "w1" }], sessions := [testedSession] }

theorem persisted_testedSession : Persisted testedDatabase "b1" testedSession where
  keyed := by decide
  found := rfl
  named := by decide
  fits := by decide
  workflow := by decide

theorem cleanUp_keeps_iff_tested :
    (∀ granted answers response db',
      (({} : Handler).cleanUpSession granted true "b1").run handleLive answers testedDatabase
        = some (response, db') →
      ¬Removed (({} : Handler).cleanUpEvents granted true "b1" answers testedDatabase) →
        db'.HasRow "s1" fun s => testedSession.outcome.KeepsSummary s.outcome) ∧
    ((∀ granted answers response db',
      (({} : Handler).cleanUpSession granted true "b1").run handleLive answers testedDatabase
        = some (response, db') →
      Removed (({} : Handler).cleanUpEvents granted true "b1" answers testedDatabase) →
        db'.HasRow "s1" fun s => testedSession.outcome.Keeps s.outcome) ↔
          testedSession.outcome.Unfinished) :=
  cleanUp_keeps_iff {} true persisted_testedSession

/-- **A summary that is lost**: three tests have run, and after the cleanup the row says that none
    has. -/
theorem cleanUp_loses_summary :
    ∃ answers response db',
      (({} : Handler).cleanUpSession true true "b1").run handleLive answers testedDatabase
        = some (response, db') ∧
      Removed (({} : Handler).cleanUpEvents true true "b1" answers testedDatabase) ∧
      ¬db'.HasRow "s1" fun s => testedSession.outcome.KeepsSummary s.outcome := by
  obtain ⟨answers, response, db', hrun, hremoved, hended⟩ :=
    exists_cleanUp {} persisted_testedSession true 200
  refine ⟨answers, response, db', hrun, hremoved, fun hkept => ?_⟩
  obtain ⟨s, hs, hid⟩ := hended.1
  have hsame : testedSession.result = Json.marshal (summarizeResults []) :=
    (hkept.2 s hs hid).1.symm.trans (hended.2 s hs hid).1
  exact absurd hsame (by decide +kernel)

end TokyoTester
