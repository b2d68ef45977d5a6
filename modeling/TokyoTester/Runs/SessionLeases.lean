import TokyoTester.Library.Serial
import TokyoTester.Library.Trace
import TokyoTester.Runs.Sessions

set_option autoImplicit false

/-! # Overlapping updates of a session

An update of a session is a read of its row, a change of it in memory, and a write of the whole
row. The write of the MySQL client does not compare the stored version with the one that was read
(the Postgres client does, and the retry of `updatePersistedSession` waits for its error), so it
undoes whatever was written in between: a change, or a lease that another runner was told it has.
Where the row that a call read is still stored when it writes, and leases are not given away or
shortened, the calls are serial and a lease has one owner. -/

namespace TokyoTester

open Table Trace

/-! ## Calls -/

/-- A change of a row: it may fail, it may look at the clock, and it keeps the row's id. -/
structure SessionChange where
  apply : Time → Session → Except String Session
  keepsId : ∀ now current next, apply now current = .ok next → next.id = current.id

/-- A handler with the id `runtimeOwnerID` gives it, which has the form `host:pid`. -/
structure Runner extends Handler where
  named : ownerId ≠ ""

/-- A call that updates a session. -/
inductive SessionCall where
  /-- `updatePersistedSession`. -/
  | update (sessionId : String) (change : SessionChange)
  /-- `ensureSessionLease`. -/
  | ensureLease (runner : Runner) (persisted : Session)
  /-- A tick of `heartbeatSession`. -/
  | heartbeat (runner : Runner) (persistedId : String)

namespace SessionCall

/-- The session a call is about. -/
def sessionId : SessionCall → String
  | update id _ => id
  | ensureLease _ persisted => persisted.id
  | heartbeat _ id => id

/-- What a call does. -/
def program : SessionCall → Task (Except String (Option Session))
  | update id change => Handler.updatePersistedSession false id fun current => do
    let now ← Task.now
    pure (change.apply now current)
  | ensureLease runner persisted => runner.ensureSessionLease (some persisted)
  | heartbeat runner id => runner.heartbeatTick id

end SessionCall

/-! ## The system -/

/-- An error with which a call of the store is refused. None of the driver's errors speaks of a
    version conflict: that text is the Postgres client's own. -/
abbrev Refusal := {message : String // Text.contains message "version conflict" = false}

/-- The answer to a call of a thread: the clock, and whether the store refuses. -/
def sessionAnswer (clock : Time) (refusal : Option Refusal) : Answer :=
  { now := clock, fault := refusal.elim .none fun r => .refused r.val }

/-- A call under way, with the row it has read. -/
structure SessionThread extends
    Thread SessionCall Answer Op Reply (Except String (Option Session)) where
  read : Option Session := none

/-- The database, the clock, and the calls that were started. -/
structure SessionSystem where
  db : Database
  clock : Time
  threads : List SessionThread := []

/-- What happens next. -/
inductive SessionLabel where
  | start (call : SessionCall)
  /-- The next step of a call: a read or a write of the row, or a look at the clock. -/
  | step (thread : Nat) (refusal : Option Refusal)
  | tick (clock : Time)

namespace SessionThread

/-- What the next step reads. -/
def reads (db : Database) (t : SessionThread) : Option Session :=
  match t.program.next? with
  | some (.store _ (.getSession id)) => (db.readSession id).toOption
  | _ => t.read

/-- The thread after a step. -/
def after (t : SessionThread) (db : Database) (answer : Answer)
    (p : Task (Except String (Option Session))) : SessionThread :=
  { toThread := t.toThread.next answer p, read := t.reads db }

/-- The row that the next step writes. -/
def writes? (t : SessionThread) : Option Session :=
  match t.program.next? with
  | some (.store _ (.upsertSession next)) => some next
  | _ => none

/-- The call has returned without an error. -/
def succeeded (t : SessionThread) : Bool := t.toThread.succeeded (·.isOk)

/-- The lease that `ensureSessionLease` has told its caller about: its owner and its end. -/
def told? (t : SessionThread) : Option (String × Time) :=
  match t.task, t.program.result? with
  | .ensureLease runner _, some (.ok (some row)) => row.leaseExpiresAt.map (runner.ownerId, ·)
  | _, _ => none

end SessionThread

namespace SessionSystem

/-- One step, when it can happen. -/
def step (s : SessionSystem) : SessionLabel → Option SessionSystem
  | .start call =>
    some { s with threads := s.threads ++ [{ task := call, program := call.program }] }
  | .step i refusal =>
    match s.threads[i]? with
    | none => none
    | some t =>
      (t.program.advance handleLive (sessionAnswer s.clock refusal) s.db).map fun r =>
        { s with
          db := r.2
          threads := s.threads.set i (t.after s.db (sessionAnswer s.clock refusal) r.1) }
  | .tick clock => if s.clock ≤ clock then some { s with clock } else none

/-- The calls that returned without an error. -/
def successful (s : SessionSystem) :
    List (Thread SessionCall Answer Op Reply (Except String (Option Session))) :=
  (s.threads.map (·.toThread)).filter (·.succeeded (·.isOk))

/-- The database after the calls, each run alone with the answers it got. -/
def serially : List (Thread SessionCall Answer Op Reply (Except String (Option Session))) →
    Database → Option Database :=
  Thread.serially handleLive SessionCall.program (·.isOk)

end SessionSystem

/-! ## The condition -/

/-- A write that respects the lease which the stored row has: a lease that has not ended keeps its
    owner (which `ensureSessionLease` and the heartbeat see to themselves) and is not shortened. -/
def SessionCall.RespectsLease (call : SessionCall) (clock : Time) (current next : Session) : Prop :=
  ∀ expires ∈ current.leaseExpiresAt, clock < expires → current.ownerId ≠ "" →
    (call matches .update _ _ → next.ownerId = current.ownerId) ∧
      next.leaseExpiresAt.any (expires ≤ ·) = true

/-- The steps that disturb no other call: a write that takes effect finds the row that its call
    read, and respects its lease. -/
def SessionSystem.Undisturbed (s : SessionSystem) : SessionLabel → Prop
  | .step i none => ∀ t ∈ s.threads[i]?, ∀ next ∈ t.writes?, (s.db.writeSession next).isOk = true →
      ∃ current ∈ t.read, s.db.readSession t.task.sessionId = .ok current ∧
        t.task.RespectsLease s.clock current next
  | _ => True

instance (call : SessionCall) (clock : Time) (current next : Session) :
    Decidable (call.RespectsLease clock current next) :=
  inferInstanceAs (Decidable (∀ expires ∈ current.leaseExpiresAt, _))

instance (s : SessionSystem) (label : SessionLabel) : Decidable (s.Undisturbed label) :=
  match label with
  | .step i none => inferInstanceAs (Decidable (∀ t ∈ s.threads[i]?, ∀ next ∈ t.writes?, _ → _))
  | .start _ => .isTrue trivial
  | .tick _ => .isTrue trivial
  | .step _ (some _) => .isTrue trivial

/-! ## The shape of the calls

A call looks at the clock, reads the row, and then writes it or fails. -/

/-- What the written row has to do with the row that was read. -/
def SessionCall.Effect (call : SessionCall) (clock : Time) (current next : Session) : Prop :=
  next.id = current.id ∧
    match call with
    | .update _ _ => True
    | .ensureLease runner _ => runner.leasedElsewhere clock current = false ∧
        next.ownerId = runner.ownerId
    | .heartbeat runner _ => current.ownerId = runner.ownerId ∧ next.ownerId = runner.ownerId

/-- A change of the row that was read, from a time on. -/
inductive Changing (call : SessionCall) (current : Session) :
    Time → Task (Except String Session) → Prop where
  | failed (clock : Time) (message : String) : Changing call current clock (.done (.error message))
  | changed (clock : Time) (next : Session) (h : call.Effect clock current next) :
      Changing call current clock (.done (.ok next))
  | now (clock : Time) (k : Time → Task (Except String Session))
      (h : ∀ later, clock ≤ later → Changing call current later (k later)) :
      Changing call current clock (.call .now k)

/-- What remains of a call that has read the row, from a time on. -/
inductive Writing (call : SessionCall) (current : Session) :
    Time → Task (Except String (Option Session)) → Prop where
  | failed (clock : Time) (message : String) : Writing call current clock (.done (.error message))
  | now (clock : Time) (k : Time → Task (Except String (Option Session)))
      (h : ∀ later, clock ≤ later → Writing call current later (k later)) :
      Writing call current clock (.call .now k)
  | write (clock : Time) (next : Session)
      (k : Except DbError Unit → Task (Except String (Option Session)))
      (heffect : call.Effect clock current next) (hok : k (.ok ()) = .done (.ok (some next)))
      (herror : ∀ e, Text.contains e.message "version conflict" = false →
        k (.error e) = .done (.error e.message)) :
      Writing call current clock (.call (.store false (.upsertSession next)) k)

/-- What remains of a call that has not read the row, from a time on. -/
inductive Starting (call : SessionCall) :
    Time → Task (Except String (Option Session)) → Prop where
  | failed (clock : Time) (message : String) : Starting call clock (.done (.error message))
  | skipped (clock : Time) : Starting call clock (.done (.ok none))
  | now (clock : Time) (k : Time → Task (Except String (Option Session)))
      (h : ∀ later, clock ≤ later → Starting call later (k later)) :
      Starting call clock (.call .now k)
  | read (clock : Time) (k : Except DbError Session → Task (Except String (Option Session)))
      (herror : ∀ e, k (.error e) = .done (.error e.message))
      (hok : ∀ later current, clock ≤ later → Writing call current later (k (.ok current))) :
      Starting call clock (.call (.store false (.getSession call.sessionId)) k)

variable {call : SessionCall} {current : Session} {clock later : Time}

/-- A runner that does not hold the row elsewhere does not hold it elsewhere later. -/
theorem Handler.leasedElsewhere_mono {h : Handler} (hle : clock ≤ later)
    (hfree : h.leasedElsewhere clock current = false) :
    h.leasedElsewhere later current = false := by
  unfold leasedElsewhere at hfree ⊢
  cases hexpires : current.leaseExpiresAt with
  | none => simp
  | some expires =>
      rw [hexpires] at hfree
      simp only [Option.any_some, Bool.and_eq_false_iff, decide_eq_false_iff_not] at hfree ⊢
      exact hfree.imp_right fun hexp hlater => hexp (hle.trans_lt hlater)

theorem SessionCall.Effect.mono {next : Session} (h : call.Effect clock current next)
    (hle : clock ≤ later) : call.Effect later current next := by
  refine ⟨h.1, ?_⟩
  have hmatch := h.2
  cases call with
  | update id change => trivial
  | ensureLease runner persisted =>
      exact ⟨Handler.leasedElsewhere_mono hle hmatch.1, hmatch.2⟩
  | heartbeat runner id => exact hmatch

theorem Writing.mono {p : Task (Except String (Option Session))}
    (h : Writing call current clock p) (hle : clock ≤ later) : Writing call current later p := by
  cases h with
  | failed _ message => exact .failed later message
  | now _ k h => exact .now later k fun c hc => h c (hle.trans hc)
  | write _ next k heffect hok herror => exact .write later next k (heffect.mono hle) hok herror

theorem Starting.mono {p : Task (Except String (Option Session))}
    (h : Starting call clock p) (hle : clock ≤ later) : Starting call later p := by
  cases h with
  | failed _ message => exact .failed later message
  | skipped => exact .skipped later
  | now _ k h => exact .now later k fun c hc => h c (hle.trans hc)
  | read _ k herror hok =>
      exact .read later k herror fun c current hc => hok c current (hle.trans hc)

/-- The row is stamped and written after it was changed. -/
theorem Changing.writing {m : Task (Except String Session)}
    {attempt : Task (Except String (Option Session))} (h : Changing call current clock m) :
    Writing call current clock (do
      match ← m with
      | .error e => pure (.error e)
      | .ok next =>
        let now ← Task.now
        let next := { next with version := current.version + 1, updatedAt := now }
        match ← Task.store false (.upsertSession next) with
        | .ok _ => pure (.ok (some next))
        | .error e =>
          if Text.contains e.message "version conflict" then attempt
          else pure (.error e.message)) := by
  induction h with
  | failed clock message => exact .failed clock message
  | changed clock next heffect =>
      refine .now clock _ fun later hle => ?_
      refine .write later _ _ (heffect.mono hle) rfl fun e he => ?_
      exact if_neg (by simp [he])
  | now clock k _ ih => exact .now clock _ fun later hle => ih later hle

/-- **An update has the shape.** -/
theorem starting_updatePersistedSession {id : String}
    {mutate : Session → Task (Except String Session)} (hid : call.sessionId = id)
    (h : ∀ current later, clock ≤ later → Changing call current later (mutate current)) :
    Starting call clock (Handler.updatePersistedSession false id mutate) := by
  unfold Handler.updatePersistedSession
  by_cases hempty : id = ""
  · rw [if_pos hempty]
    exact .skipped clock
  · rw [if_neg hempty]
    subst hid
    exact .read clock _ (fun _ => rfl) fun later current hle => (h current later hle).writing

/-- **Every call has the shape.** -/
theorem SessionCall.starting (call : SessionCall) (clock : Time) :
    Starting call clock call.program := by
  cases call with
  | update id change =>
      refine starting_updatePersistedSession rfl fun current later _ => .now later _ fun now _ => ?_
      show Changing _ current now (.done (change.apply now current))
      cases hnext : change.apply now current with
      | error message => exact .failed now message
      | ok next => exact .changed now next ⟨change.keepsId now current next hnext, trivial⟩
  -- the lease is looked at twice: in the row handed in and in the row read again
  | ensureLease runner persisted =>
      refine .now clock _ fun now _ => ?_
      show Starting _ now (if runner.leasedElsewhere now persisted then _ else _)
      by_cases hleased : runner.leasedElsewhere now persisted = true
      · rw [if_pos hleased]
        exact .failed now _
      · rw [if_neg hleased]
        refine starting_updatePersistedSession rfl fun current later hle => ?_
        unfold Handler.takeLease
        by_cases hcurrent : runner.leasedElsewhere now current = true
        · rw [if_pos hcurrent]
          exact .failed later _
        · rw [if_neg hcurrent]
          refine .changed later _ ⟨rfl, ?_, rfl⟩
          exact Handler.leasedElsewhere_mono hle (Bool.eq_false_iff.2 hcurrent)
  | heartbeat runner id =>
      refine .now clock _ fun now _ => ?_
      refine starting_updatePersistedSession rfl fun current later _ => ?_
      unfold Handler.heartbeatSession
      by_cases hlost : current.status ≠ .running ∨ current.ownerId ≠ runner.ownerId
      · rw [if_pos hlost]
        exact .failed later _
      · rw [if_neg hlost]
        push Not at hlost
        exact .changed later _ ⟨rfl, hlost.2, hlost.2⟩

/-! ## Steps of a call -/

variable {refusal : Option Refusal} {db db' : Database}

theorem handleLive_getSession (id : String) :
    handleLive (.store false (.getSession id)) (sessionAnswer clock refusal) db
      = (refusal.elim (db.readSession id) fun r => .error (.text r.val), db) := by
  rw [handleLive_store]
  cases refusal with
  | some r => rfl
  | none =>
      show Fault.none.apply db ((db.readSession id).map (·, db)) = (db.readSession id, db)
      cases db.readSession id with
      | error e => rfl
      | ok session => rfl

theorem handleLive_upsertSession (next : Session) :
    handleLive (.store false (.upsertSession next)) (sessionAnswer clock none) db
      = match db.writeSession next with
        | .ok db' => (.ok (), db')
        | .error e => (.error e, db) := by
  rw [handleLive_store]
  show Fault.none.apply db ((db.writeSession next).map ((), ·)) = _
  cases db.writeSession next with
  | error e => rfl
  | ok db' => rfl

theorem handleLive_upsertSession_refused (next : Session) (r : Refusal) :
    handleLive (.store false (.upsertSession next)) (sessionAnswer clock (some r)) db
      = (.error (.text r.val), db) := by
  rw [handleLive_store]
  rfl

/-- A write is never answered with a version conflict. -/
theorem writeSession_error {next : Session} {e : DbError} (h : db.writeSession next = .error e) :
    Text.contains e.message "version conflict" = false := by
  unfold Database.writeSession at h
  split_ifs at h
  · obtain rfl := Except.error.inj h
    decide +kernel
  · obtain rfl := Except.error.inj h
    decide +kernel

/-- Replaying what a call did so far changes nothing and leads to where it is. -/
abbrev SessionThread.UpToDate (t : SessionThread) (db : Database) : Prop :=
  t.toThread.UpToDate handleLive SessionCall.program db

/-- Where a call can be. -/
inductive SessionThread.Consistent (clock : Time) (t : SessionThread) : Prop where
  | starting (hshape : Starting t.task clock t.program) (hreplay : ∀ db, t.UpToDate db)
  | writing (current : Session) (hread : t.read = some current)
      (hshape : Writing t.task current clock t.program)
      (hreplay : ∀ db, db.readSession t.task.sessionId = .ok current → t.UpToDate db)
  | returned (r : Except String (Option Session)) (hdone : t.program = .done r)

theorem SessionThread.Consistent.mono {t : SessionThread} (h : t.Consistent clock)
    (hle : clock ≤ later) : t.Consistent later := by
  cases h with
  | starting hshape hreplay => exact .starting (hshape.mono hle) hreplay
  | writing current hread hshape hreplay =>
      exact .writing current hread (hshape.mono hle) hreplay
  | returned r hdone => exact .returned r hdone

/-- The write of a call that has read `current`, and that returns. -/
structure Commits (call : SessionCall) (clock : Time) (db db' : Database)
    (current next : Session) : Prop where
  stored : db.readSession call.sessionId = .ok current
  effect : call.Effect clock current next
  respects : call.RespectsLease clock current next
  written : db.writeSession next = .ok db'

/-- What a step of a call does: nothing, with the call still under way or failed; nothing, with
    the call returned; or the write. -/
inductive StepOutcome (clock : Time) (db : Database) (t t' : SessionThread) : Database → Prop where
  | quiet (hconsistent : t'.Consistent clock) (hfailed : t'.succeeded = false) :
      StepOutcome clock db t t' db
  | skipped (hreplay : t.UpToDate db) (hdone : t'.program = .done (.ok none)) :
      StepOutcome clock db t t' db
  | committed (db' : Database) (current next : Session) (hreplay : t.UpToDate db)
      (hcommits : Commits t.task clock db db' current next)
      (hdone : t'.program = .done (.ok (some next))) : StepOutcome clock db t t' db'

theorem SessionThread.succeeded_error {t : SessionThread} {message : String}
    (h : t.program = .done (.error message)) : t.succeeded = false := by
  unfold succeeded Thread.succeeded
  rw [h]
  rfl

theorem Writing.not_succeeded {t : SessionThread} (h : Writing call current clock t.program) :
    t.succeeded = false := by
  unfold SessionThread.succeeded Thread.succeeded
  generalize t.program = p at h
  cases h with
  | failed => rfl
  | now => rfl
  | write => rfl

/-- A step of a thread without an effect, after which it is still before its read. -/
theorem Starting.outcome {t t' : SessionThread} (hshape : Starting t'.task clock t'.program)
    (hreplay : ∀ db, t.UpToDate db) (hreplay' : ∀ db, t'.UpToDate db) :
    StepOutcome clock db t t' db := by
  generalize hp : t'.program = p at hshape
  cases hshape with
  | failed _ message => exact .quiet (.returned _ hp) (t'.succeeded_error hp)
  | skipped => exact .skipped (hreplay db) hp
  | now _ k h =>
      refine .quiet (.starting ?_ hreplay') ?_
      · rw [hp]
        exact .now clock k h
      · unfold SessionThread.succeeded Thread.succeeded
        rw [hp]
        rfl
  | read _ k herror hok =>
      refine .quiet (.starting ?_ hreplay') ?_
      · rw [hp]
        exact .read clock k herror hok
      · unfold SessionThread.succeeded Thread.succeeded
        rw [hp]
        rfl

/-- **The step of a call that has not read the row.** -/
theorem Starting.step {t : SessionThread} {p : Task (Except String (Option Session))}
    (hshape : Starting t.task clock t.program) (hreplay : ∀ db, t.UpToDate db)
    (hstep : t.program.advance handleLive (sessionAnswer clock refusal) db = some (p, db')) :
    StepOutcome clock db t (t.after db (sessionAnswer clock refusal) p) db' := by
  obtain ⟨⟨task, answers, program⟩, read⟩ := t
  change Starting task clock program at hshape
  change program.advance _ _ _ = _ at hstep
  cases hshape with
  | failed => cases hstep
  | skipped => cases hstep
  | now _ k h =>
      obtain ⟨rfl, rfl⟩ := Prod.mk.inj (Option.some.inj hstep)
      exact Starting.outcome (h clock le_rfl) hreplay fun db => (hreplay db).advance rfl
  | read _ k herror hok =>
      have hdb := Option.some.inj hstep
      rw [handleLive_getSession] at hdb
      obtain ⟨hp, rfl⟩ := Prod.mk.inj hdb
      -- any database with the same row answers the read alike
      have hreads (d : Database)
          (hd : d.readSession task.sessionId = db.readSession task.sessionId) :
          (Program.call (.store false (.getSession task.sessionId)) k).advance handleLive
            (sessionAnswer clock refusal) d = some (p, d) := by
        show some (k (handleLive (.store false (.getSession task.sessionId)) _ d).1, _) = _
        rw [handleLive_getSession, hd]
        exact congrArg some (Prod.ext hp rfl)
      cases refusal with
      | some r =>
          have hfailed : p = .done (.error r.val) := hp.symm.trans (herror _)
          exact .quiet (.returned _ hfailed) (SessionThread.succeeded_error hfailed)
      | none =>
          cases hrow : db.readSession task.sessionId with
          | error e =>
              have hfailed : p = .done (.error e.message) := by
                rw [← hp]
                show k (db.readSession task.sessionId) = _
                rw [hrow, herror]
              exact .quiet (.returned _ hfailed) (SessionThread.succeeded_error hfailed)
          | ok current =>
              have hwriting : Writing task current clock p := by
                rw [← hp]
                show Writing task current clock (k (db.readSession task.sessionId))
                rw [hrow]
                exact hok clock current le_rfl
              refine .quiet (.writing current ?_ hwriting ?_) (Writing.not_succeeded hwriting)
              · show (db.readSession task.sessionId).toOption = some current
                rw [hrow]
                rfl
              · intro d hd
                exact (hreplay d).advance (hreads d (hd.trans hrow.symm))

/-- **The step of a call that has read the row.** -/
theorem Writing.step {t : SessionThread} {p : Task (Except String (Option Session))}
    (hshape : Writing t.task current clock t.program) (hread : t.read = some current)
    (hreplay : ∀ db, db.readSession t.task.sessionId = .ok current → t.UpToDate db)
    (hguard : refusal = none → ∀ next ∈ t.writes?, (db.writeSession next).isOk = true →
      db.readSession t.task.sessionId = .ok current ∧ t.task.RespectsLease clock current next)
    (hstep : t.program.advance handleLive (sessionAnswer clock refusal) db = some (p, db')) :
    StepOutcome clock db t (t.after db (sessionAnswer clock refusal) p) db' := by
  obtain ⟨⟨task, answers, program⟩, read⟩ := t
  change Writing task current clock program at hshape
  change program.advance _ _ _ = _ at hstep
  cases hshape with
  | failed => cases hstep
  | now _ k h =>
      obtain ⟨rfl, rfl⟩ := Prod.mk.inj (Option.some.inj hstep)
      have hwriting := h clock le_rfl
      refine .quiet (.writing current hread hwriting ?_) (Writing.not_succeeded hwriting)
      intro d hd
      exact (hreplay d hd).advance rfl
  | write _ next k heffect hok herror =>
      have hdb := Option.some.inj hstep
      cases refusal with
      | some r =>
          rw [handleLive_upsertSession_refused] at hdb
          obtain ⟨hp, rfl⟩ := Prod.mk.inj hdb
          have hfailed : p = .done (.error r.val) := hp.symm.trans (herror _ r.property)
          exact .quiet (.returned _ hfailed) (SessionThread.succeeded_error hfailed)
      | none =>
          rw [handleLive_upsertSession] at hdb
          cases hwrite : db.writeSession next with
          | error e =>
              rw [hwrite] at hdb
              obtain ⟨hp, rfl⟩ := Prod.mk.inj hdb
              have hfailed : p = .done (.error e.message) :=
                hp.symm.trans (herror e (writeSession_error hwrite))
              exact .quiet (.returned _ hfailed) (SessionThread.succeeded_error hfailed)
          | ok db₁ =>
              rw [hwrite] at hdb
              obtain ⟨hp, rfl⟩ := Prod.mk.inj hdb
              obtain ⟨hstored, hrespects⟩ := hguard rfl next rfl (by rw [hwrite]; rfl)
              exact .committed db₁ current next (hreplay db hstored)
                ⟨hstored, heffect, hrespects, hwrite⟩ (hp.symm.trans hok)

/-! ## Leases in the table -/

/-- The stored row of a session leases it to an owner at least until a time. -/
def Database.HoldsLease (db : Database) (id owner : String) (expires : Time) : Prop :=
  ∃ row, find Session.id id db.sessions = some row ∧ row.ownerId = owner ∧
    row.leaseExpiresAt.any (expires ≤ ·) = true

/-- What is read is the stored row, but for its version. -/
theorem find_of_readSession {id : String} (hkeyed : Keyed Session.id db.sessions)
    (h : db.readSession id = .ok current) :
    ∃ row, find Session.id id db.sessions = some row ∧ current = { row with version := 0 } := by
  obtain ⟨row, hrow, rfl⟩ := Transaction.map_eq_ok.1 h
  unfold Database.getSession at hrow
  cases hfind : db.sessions.find? fun s => s.id = id && !s.isDeleted with
  | none =>
      rw [hfind] at hrow
      cases hrow
  | some found =>
      rw [hfind] at hrow
      obtain rfl := Except.ok.inj hrow
      have hid : found.id = id := by
        have := List.find?_some hfind
        simp only [Bool.and_eq_true, decide_eq_true_eq] at this
        exact this.1
      refine ⟨found, ?_, rfl⟩
      rw [← hid]
      exact hkeyed.find_mem (List.mem_of_find?_eq_some hfind)

theorem writeSession_sessions {next : Session} (h : db.writeSession next = .ok db') :
    db'.sessions = upsert Session.id { next with version := 1 }
      (fun old => { next with id := old.id, createdAt := old.createdAt, version := old.version })
      db.sessions := by
  unfold Database.writeSession at h
  split_ifs at h
  obtain rfl := Except.ok.inj h
  rfl

section Commits

variable {next : Session} (hkeyed : Keyed Session.id db.sessions)
  (h : Commits call clock db db' current next)

include hkeyed h

theorem Commits.keyed : Keyed Session.id db'.sessions := by
  rw [writeSession_sessions h.written]
  exact hkeyed.upsert fun _ => rfl

/-- The row after a write has the owner and the lease that were written; other rows stay. -/
theorem Commits.find (id : String) :
    (id = call.sessionId → ∃ row, Table.find Session.id id db'.sessions = some row ∧
      row.ownerId = next.ownerId ∧ row.leaseExpiresAt = next.leaseExpiresAt) ∧
    (id ≠ call.sessionId →
      Table.find Session.id id db'.sessions = Table.find Session.id id db.sessions) := by
  obtain ⟨row, hrow, rfl⟩ := find_of_readSession hkeyed h.stored
  have hid : next.id = call.sessionId := h.effect.1.trans (find_some hrow).2
  rw [writeSession_sessions h.written, find_upsert (fun _ _ _ => by rfl)]
  refine ⟨?_, ?_⟩
  · rintro rfl
    rw [if_pos hid.symm, hrow]
    exact ⟨_, rfl, rfl, rfl⟩
  · intro hne
    exact if_neg fun heq => hne (heq.trans hid)

/-- **A write leaves a lease that has not ended to its owner.** -/
theorem Commits.holdsLease {id owner : String} {expires : Time} (hnamed : owner ≠ "")
    (hlive : clock < expires) (hlease : db.HoldsLease id owner expires) :
    db'.HoldsLease id owner expires := by
  obtain ⟨row, hrow, howner, hexpires⟩ := hlease
  by_cases hid : id = call.sessionId
  · obtain ⟨row', hrow', howner', hexpires'⟩ := (h.find hkeyed id).1 hid
    obtain ⟨stored, hstored, hcurrent⟩ := find_of_readSession hkeyed h.stored
    obtain rfl : stored = row := Option.some.inj (hstored.symm.trans (hid ▸ hrow))
    -- the lease of the row that was read has not ended either
    cases hlast : stored.leaseExpiresAt with
    | none =>
        rw [hlast] at hexpires
        cases hexpires
    | some last =>
        have hle : expires ≤ last := by
          rw [hlast] at hexpires
          simpa using hexpires
        have hcurrentLease : current.leaseExpiresAt = some last := by rw [hcurrent, ← hlast]
        have hcurrentOwner : current.ownerId = owner := by rw [hcurrent, ← howner]
        obtain ⟨hupdate, hlonger⟩ := h.respects last hcurrentLease (hlive.trans_le hle)
          (by rw [hcurrentOwner]; exact hnamed)
        refine ⟨row', hrow', ?_, ?_⟩
        · rw [howner', ← hcurrentOwner]
          have heffect := h.effect.2
          cases call with
          | update sessionId change => exact hupdate rfl
          | heartbeat runner sessionId => exact heffect.2.trans heffect.1.symm
          | ensureLease runner persisted =>
              -- the check of `ensureSessionLease` lets only the owner through
              obtain ⟨hfree, hnext⟩ := heffect
              have hsame : current.ownerId = runner.ownerId := by
                by_contra hother
                have hleased : runner.leasedElsewhere clock current = true := by
                  unfold Handler.leasedElsewhere
                  rw [hcurrentLease]
                  rw [hcurrentOwner] at hother ⊢
                  simpa [hother, hnamed] using hlive.trans_le hle
                rw [hfree] at hleased
                cases hleased
              rw [hnext, hsame]
        · rw [hexpires']
          cases hnextLease : next.leaseExpiresAt with
          | none =>
              rw [hnextLease] at hlonger
              cases hlonger
          | some until' =>
              rw [hnextLease] at hlonger
              simp only [Option.any_some, decide_eq_true_eq] at hlonger ⊢
              exact hle.trans hlonger
  · refine ⟨row, ?_, howner, hexpires⟩
    rw [(h.find hkeyed id).2 hid]
    exact hrow

/-- **The caller of `ensureSessionLease` is told about the lease that the row has.** -/
theorem Commits.told {t : SessionThread} {lease : String × Time} (htask : t.task = call)
    (hdone : t.program = .done (.ok (some next))) (hlease : lease ∈ t.told?) :
    db'.HoldsLease call.sessionId lease.1 lease.2 := by
  obtain ⟨row, hrow, howner, hexpires⟩ := (h.find hkeyed call.sessionId).1 rfl
  unfold SessionThread.told? at hlease
  rw [hdone, htask] at hlease
  have heffect := h.effect.2
  cases call with
  | update sessionId change => cases hlease
  | heartbeat runner sessionId => cases hlease
  | ensureLease runner persisted =>
      obtain ⟨expires, hnext, rfl⟩ := Option.map_eq_some_iff.1 hlease
      refine ⟨row, hrow, howner.trans heffect.2, ?_⟩
      rw [hexpires, hnext]
      simp

end Commits

/-! ## Runs -/

/-- What undisturbed steps keep. -/
structure SessionInvariant (init : Database) (s : SessionSystem) : Prop where
  keyed : Keyed Session.id s.db.sessions
  consistent : ∀ t ∈ s.threads, t.Consistent s.clock
  serial : ∃ order, order.Perm s.successful ∧ SessionSystem.serially order init = some s.db
  leases : ∀ t ∈ s.threads, ∀ lease ∈ t.told?, s.clock < lease.2 →
    s.db.HoldsLease t.task.sessionId lease.1 lease.2

theorem SessionThread.told_named {t : SessionThread} {lease : String × Time}
    (h : lease ∈ t.told?) : lease.1 ≠ "" := by
  unfold told? at h
  split at h
  next runner _ row _ _ =>
    obtain ⟨expires, _, rfl⟩ := Option.map_eq_some_iff.1 h
    exact runner.named
  next => cases h

/-- Only a call that returned a row has told its caller about a lease. -/
theorem SessionThread.result_of_told {t : SessionThread} {lease : String × Time}
    (h : lease ∈ t.told?) : ∃ row, t.program = .done (.ok (some row)) := by
  unfold told? at h
  split at h
  next runner _ _ row _ hresult =>
    refine ⟨row, ?_⟩
    cases hp : t.program with
    | done r =>
        rw [hp] at hresult
        rw [Option.some.inj hresult]
    | call op k =>
        rw [hp] at hresult
        cases hresult
  next => cases h

variable {init : Database} {s : SessionSystem}

theorem SessionInvariant.tick (inv : SessionInvariant init s) (hle : s.clock ≤ later) :
    SessionInvariant init { s with clock := later } where
  keyed := inv.keyed
  consistent t ht := (inv.consistent t ht).mono hle
  serial := inv.serial
  leases t ht lease hlease hlive := inv.leases t ht lease hlease (hle.trans_lt hlive)

/-- **Starting a call keeps the invariant.** -/
theorem SessionInvariant.start (inv : SessionInvariant init s) (call : SessionCall) :
    SessionInvariant init
      { s with threads := s.threads ++ [{ task := call, program := call.program }] } where
  keyed := inv.keyed
  consistent t ht := by
    rcases List.mem_append.1 ht with ht | ht
    · exact inv.consistent t ht
    · rw [List.mem_singleton.1 ht]
      exact .starting (call.starting s.clock) fun _ => rfl
  serial := by
    obtain ⟨order, hperm, hserial⟩ := inv.serial
    have hshape := call.starting s.clock
    unfold SessionSystem.successful
    rw [List.map_append, List.filter_append]
    have hsame (hnone : (call.program.result?.any (·.isOk)) = false) : order.Perm (s.successful ++
        [{ task := call, program := call.program }].filter (Thread.succeeded (·.isOk))) := by
      rw [List.filter_singleton]
      unfold Thread.succeeded
      rw [hnone]
      simpa using hperm
    generalize hp : call.program = p at hshape
    cases hshape with
    | skipped =>
        -- a call without a session returns at once
        refine ⟨order ++ [{ task := call, program := call.program }], ?_, ?_⟩
        · rw [hp]
          exact hperm.append_right _
        · unfold SessionSystem.serially at hserial ⊢
          rw [Thread.serially_append, hserial]
          simp [Thread.serially, hp, Program.run, Except.isOk, Except.toBool]
    | failed => exact ⟨order, hp ▸ hsame (by rw [hp]; rfl), hserial⟩
    | now => exact ⟨order, hp ▸ hsame (by rw [hp]; rfl), hserial⟩
    | read => exact ⟨order, hp ▸ hsame (by rw [hp]; rfl), hserial⟩
  leases t ht lease hlease hlive := by
    rcases List.mem_append.1 ht with ht | ht
    · exact inv.leases t ht lease hlease hlive
    · rw [List.mem_singleton.1 ht] at hlease
      obtain ⟨row, hrow⟩ := SessionThread.result_of_told hlease
      have hshape := call.starting s.clock
      rw [show call.program = _ from hrow] at hshape
      cases hshape

theorem SessionThread.not_succeeded_of_advance {t : SessionThread} {answer : Answer}
    {r : Task (Except String (Option Session)) × Database}
    (h : t.program.advance handleLive answer db = some r) : t.succeeded = false := by
  unfold succeeded Thread.succeeded
  cases hp : t.program with
  | done a =>
      rw [hp] at h
      cases h
  | call op k => rfl

/-- The invariant with one call replaced, when the leases stay and the call's own is stored. -/
theorem SessionInvariant.set (inv : SessionInvariant init s) {i : Nat} {t' : SessionThread}
    (hconsistent : t'.Consistent s.clock) (hkeyed : Keyed Session.id db'.sessions)
    (hserial : ∃ order, order.Perm ({ s with db := db', threads := s.threads.set i t' } :
      SessionSystem).successful ∧ SessionSystem.serially order init = some db')
    (hold : ∀ {id owner : String} {expires : Time}, owner ≠ "" → s.clock < expires →
      s.db.HoldsLease id owner expires → db'.HoldsLease id owner expires)
    (hnew : ∀ lease ∈ t'.told?, db'.HoldsLease t'.task.sessionId lease.1 lease.2) :
    SessionInvariant init { s with db := db', threads := s.threads.set i t' } where
  keyed := hkeyed
  consistent u hu := by
    rcases List.mem_or_eq_of_mem_set hu with hu | rfl
    · exact inv.consistent u hu
    · exact hconsistent
  serial := hserial
  leases u hu lease hlease hlive := by
    rcases List.mem_or_eq_of_mem_set hu with hu | rfl
    · exact hold (SessionThread.told_named hlease) hlive (inv.leases u hu lease hlease hlive)
    · exact hnew lease hlease

section Step

variable {i : Nat} {t t' : SessionThread} (hi : s.threads[i]? = some t)

include hi

/-- A call that returns successfully joins the others that did. -/
theorem SessionSystem.successful_set (hbefore : t.succeeded = false)
    (hafter : t'.succeeded = true) :
    ({ s with db := db', threads := s.threads.set i t' } : SessionSystem).successful.Perm
      (s.successful ++ [t'.toThread]) := by
  unfold SessionSystem.successful
  rw [List.map_set]
  exact Thread.filter_set_perm (by rw [List.getElem?_map, hi]; rfl) hbefore hafter

theorem SessionSystem.successful_set_same (hbefore : t.succeeded = false)
    (hafter : t'.succeeded = false) :
    ({ s with db := db', threads := s.threads.set i t' } : SessionSystem).successful
      = s.successful := by
  unfold SessionSystem.successful
  rw [List.map_set]
  exact Thread.filter_set_eq (by rw [List.getElem?_map, hi]; rfl) hbefore hafter

/-- **A step of a call keeps the invariant.** -/
theorem SessionInvariant.outcome (inv : SessionInvariant init s)
    {p : Task (Except String (Option Session))}
    (hstep : t.program.advance handleLive (sessionAnswer s.clock refusal) s.db = some (p, db'))
    (h : StepOutcome s.clock s.db t (t.after s.db (sessionAnswer s.clock refusal) p) db') :
    SessionInvariant init
      { s with
        db := db'
        threads := s.threads.set i (t.after s.db (sessionAnswer s.clock refusal) p) } := by
  have hbefore := SessionThread.not_succeeded_of_advance hstep
  obtain ⟨order, hperm, hserial⟩ := inv.serial
  set t' := t.after s.db (sessionAnswer s.clock refusal) p with ht'
  -- a call that returns joins the serial order at its end
  have hjoin (hreplay : t.UpToDate s.db) {r : Option Session} (hp : p = .done (.ok r)) :
      ∃ order, order.Perm ({ s with db := db', threads := s.threads.set i t' } :
          SessionSystem).successful ∧ SessionSystem.serially order init = some db' := by
    subst hp
    refine ⟨order ++ [t'.toThread], ?_, ?_⟩
    · exact (hperm.append_right _).trans (SessionSystem.successful_set hi hbefore rfl).symm
    · unfold SessionSystem.serially at hserial ⊢
      rw [Thread.serially_append, hserial]
      exact hreplay.serially_next hstep rfl
  cases h with
  | quiet hconsistent hfailed =>
      refine inv.set hconsistent inv.keyed ⟨order, ?_, hserial⟩ (fun _ _ h => h) ?_
      · rw [SessionSystem.successful_set_same hi hbefore hfailed]
        exact hperm
      · intro lease hlease
        obtain ⟨row, hrow⟩ := SessionThread.result_of_told hlease
        unfold SessionThread.succeeded Thread.succeeded at hfailed
        rw [hrow] at hfailed
        cases hfailed
  | skipped hreplay hdone =>
      refine inv.set (.returned _ hdone) inv.keyed (hjoin hreplay hdone) (fun _ _ h => h) ?_
      intro lease hlease
      obtain ⟨row, hrow⟩ := SessionThread.result_of_told hlease
      rw [hdone] at hrow
      cases hrow
  | committed _ current next hreplay hcommits hdone =>
      refine inv.set (.returned _ hdone) (hcommits.keyed inv.keyed) (hjoin hreplay hdone) ?_ ?_
      · intro id owner expires hnamed hlive hlease
        exact hcommits.holdsLease inv.keyed hnamed hlive hlease
      · intro lease hlease
        exact hcommits.told (t := t') inv.keyed rfl hdone hlease

end Step

/-- **An undisturbed step keeps the invariant.** -/
theorem SessionInvariant.step (inv : SessionInvariant init s) {label : SessionLabel}
    {s' : SessionSystem} (hguard : s.Undisturbed label) (hstep : s.step label = some s') :
    SessionInvariant init s' := by
  cases label with
  | start call =>
      obtain rfl := Option.some.inj hstep
      exact inv.start call
  | tick clock =>
      unfold SessionSystem.step at hstep
      dsimp only at hstep
      split_ifs at hstep with hle
      obtain rfl := Option.some.inj hstep
      exact inv.tick hle
  | step i refusal =>
      unfold SessionSystem.step at hstep
      dsimp only at hstep
      cases hi : s.threads[i]? with
      | none =>
          rw [hi] at hstep
          cases hstep
      | some t =>
          rw [hi] at hstep
          obtain ⟨⟨p, db'⟩, hadvance, rfl⟩ := Option.map_eq_some_iff.1 hstep
          refine inv.outcome hi hadvance ?_
          cases inv.consistent t (List.mem_of_getElem? hi) with
          | starting hshape hreplay => exact hshape.step hreplay hadvance
          | writing current hread hshape hreplay =>
              -- the guard speaks of the row under the write, which is the one the call read
              refine hshape.step hread hreplay ?_ hadvance
              rintro rfl next hnext hok
              obtain ⟨current', hread', hstored, hrespects⟩ := hguard t hi next hnext hok
              obtain rfl : current = current' := Option.some.inj (hread.symm.trans hread')
              exact ⟨hstored, hrespects⟩
          | returned r hdone =>
              rw [hdone] at hadvance
              cases hadvance

/-- **Undisturbed session updates serialise**: after any run of undisturbed steps, the database is
    that of running the calls that succeeded one after the other in some order, and two runners
    that were both told about a lease of the same session which has not ended are the same. -/
theorem session_updates_serialise {s s' : SessionSystem} {labels : List SessionLabel}
    (hkeyed : Keyed Session.id s.db.sessions) (hidle : s.threads = [])
    (h : Guarded (fun s l s' => s.step l = some s') SessionSystem.Undisturbed s labels s') :
    (∃ order, order.Perm s'.successful ∧ SessionSystem.serially order s.db = some s'.db) ∧
      ∀ t₁ ∈ s'.threads, ∀ t₂ ∈ s'.threads, ∀ lease₁ ∈ t₁.told?, ∀ lease₂ ∈ t₂.told?,
        t₁.task.sessionId = t₂.task.sessionId → s'.clock < lease₁.2 → s'.clock < lease₂.2 →
          lease₁.1 = lease₂.1 := by
  have start : SessionInvariant s.db s := by
    refine ⟨hkeyed, ?_, ⟨[], ?_, rfl⟩, ?_⟩
    · simp [hidle]
    · simp [SessionSystem.successful, hidle]
    · simp [hidle]
  have inv := h.invariant (SessionInvariant s.db) (fun hg hs hi => hi.step hg hs) start
  refine ⟨inv.serial, ?_⟩
  intro t₁ ht₁ t₂ ht₂ lease₁ hlease₁ lease₂ hlease₂ hsame hlive₁ hlive₂
  obtain ⟨row₁, hrow₁, howner₁, -⟩ := inv.leases t₁ ht₁ lease₁ hlease₁ hlive₁
  obtain ⟨row₂, hrow₂, howner₂, -⟩ := inv.leases t₂ ht₂ lease₂ hlease₂ hlive₂
  rw [hsame] at hrow₁
  obtain rfl : row₁ = row₂ := Option.some.inj (hrow₁.symm.trans hrow₂)
  exact howner₁.symm.trans howner₂

/-- A session of a workflow that nobody leases. -/
def unleasedSession : SessionSystem where
  clock := 100
  db := {
    workflows := [{ (default : Workflow) with id := "workflow", projectId := "project" }]
    sessions := [{ (default : Session) with
      id := "session", workflowId := "workflow", status := .running, ownerId := ""
      leaseExpiresAt := none, isDeleted := false }] }

/-- Two runners with leases of fifty milliseconds. -/
def firstRunner : Runner := { ownerId := "host:1", leaseDuration := 50, named := by decide }

def secondRunner : Runner := { ownerId := "host:2", leaseDuration := 50, named := by decide }

/-- The row that both were given by a lookup. -/
def lookedUp : Session := { (default : Session) with id := "session", ownerId := "" }

/-- A change of a column. -/
def noteError : SessionChange where
  apply _ current := .ok { current with error := "late" }
  keepsId _ _ _ h := by
    obtain rfl := Except.ok.inj h
    rfl

/-- The steps of a call without the store's refusal. -/
def fourSteps (i : Nat) : List SessionLabel := List.replicate 4 (.step i none)

/-- The first runner takes the lease and renews it, an update changes the row, and the second
    runner takes the lease after it has ended. -/
def oneAfterTheOther : List SessionLabel :=
  [.start (.ensureLease firstRunner lookedUp)] ++ fourSteps 0 ++
    [.tick 120, .start (.heartbeat firstRunner "session")] ++ fourSteps 1 ++
    [.start (.update "session" noteError)] ++ fourSteps 2 ++
    [.tick 170, .start (.ensureLease secondRunner lookedUp)] ++ fourSteps 3

theorem session_updates_serialise_leased :
    ∃ s, Guarded (fun s l s' => SessionSystem.step s l = some s') SessionSystem.Undisturbed
        unleasedSession oneAfterTheOther s ∧
      s.successful.length = 4 ∧ (s.threads.filterMap (·.told?)).map (·.1) = ["host:1", "host:2"] ∧
      ∃ order, order.Perm s.successful ∧
        SessionSystem.serially order unleasedSession.db = some s.db := by
  have hruns : (run (restrict SessionSystem.step SessionSystem.Undisturbed) unleasedSession
      oneAfterTheOther).map (fun s => (s.successful.length,
        (s.threads.filterMap (·.told?)).map (·.1))) = some (4, ["host:1", "host:2"]) := by
    decide +kernel
  obtain ⟨s, hs, hend⟩ := Option.map_eq_some_iff.1 hruns
  obtain ⟨hlength, htold⟩ := Prod.mk.inj hend
  have hrun := Guarded.of_run hs
  exact ⟨s, hrun, hlength, htold,
    (session_updates_serialise (by decide) rfl hrun).1⟩

/-- Both runners read the row before either writes it. -/
def bothReadFirst : List SessionLabel :=
  [.start (.ensureLease firstRunner lookedUp), .start (.ensureLease secondRunner lookedUp),
    .step 0 none, .step 0 none, .step 1 none, .step 1 none,
    .step 0 none, .step 0 none, .step 1 none, .step 1 none]

/-- Then both are told that they have the lease, although one after the other could not have been,
    and the write of the second has replaced the first. -/
theorem session_lease_taken_twice :
    ∃ s, Steps (fun s l s' => SessionSystem.step s l = some s') unleasedSession bothReadFirst s ∧
      s.threads.filterMap (·.told?) = [("host:1", 150), ("host:2", 150)] ∧ s.clock = 100 ∧
      ¬ ∃ order, order.Perm s.successful ∧
        SessionSystem.serially order unleasedSession.db = some s.db := by
  have hruns : (run SessionSystem.step unleasedSession bothReadFirst).map (fun s =>
      (s.threads.filterMap (·.told?), s.clock,
        s.successful.permutations'.all fun order =>
          (SessionSystem.serially order unleasedSession.db).isNone))
        = some ([("host:1", 150), ("host:2", 150)], 100, true) := by decide +kernel
  obtain ⟨s, hs, hend⟩ := Option.map_eq_some_iff.1 hruns
  obtain ⟨htold, hend⟩ := Prod.mk.inj hend
  obtain ⟨hclock, hnone⟩ := Prod.mk.inj hend
  refine ⟨s, Steps.of_run hs, htold, hclock, ?_⟩
  rintro ⟨order, hperm, hserial⟩
  have hempty := List.all_eq_true.1 hnone order (List.mem_permutations'.2 hperm)
  rw [hserial] at hempty
  cases hempty

end TokyoTester
