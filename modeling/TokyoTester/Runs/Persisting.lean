import TokyoTester.Runs.CleanUp
import TokyoTester.Runs.StoredResults

set_option autoImplicit false

/-! # Scenarios that persist

A scenario is taken as it runs while nothing goes wrong with the store: its calls are answered, what
it writes is stored as it was meant, and the others leave its rows alone. What is then known of the
database at a point of its program is a `Stage`: a statement about how far its row says that it has
come, and about the rows of its results. `Leads` is the judgement that a program leads from one stage
to another. -/

namespace TokyoTester

open Table Program

/-! ## The rows of a scenario -/

/-- How far the row of a session says that its scenario has come. -/
structure Progress where
  status : ExecutionStatus
  phase : SessionPhase
  checkpointIndex : Int

def Session.progress (s : Session) : Progress := ⟨s.status, s.phase, s.checkpointIndex⟩

/-- A phase in which no more tests are run. -/
def SessionPhase.late : SessionPhase → Bool
  | .cleaningUp | .cleanupFailed | .completed | .failed => true
  | _ => false

/-- `isTerminalScenarioCheckpoint`. -/
def Progress.terminal (q : Progress) : Bool :=
  (q.status = .completed && q.phase = .completed) || (q.status = .failed && q.phase = .failed)

/-- The condition of the branch of `runWorkflowBundleScenarioForRun` that finishes a scenario with
    this many tests from its stored results. -/
def Progress.interrupted (tests : Nat) (q : Progress) : Bool :=
  (q.phase = .cleaningUp || q.phase = .cleanupFailed) && (tests : Int) ≤ q.checkpointIndex

/-- The rows of a session's results. -/
def Database.resultsOf (db : Database) (id : String) : List TestResult :=
  db.testResults.filter fun r => r.sessionId = id

/-- The row that counts for a test. -/
def lastRow (rows : List TestResult) (name : String) : Option TestResult :=
  rows.reverse.find? fun r => r.testName = name

section Counts

variable (names : List String) (rows : List TestResult)

/-- The tests of a plan that have a row which passed. -/
def storedPassed : Int64 :=
  countInt (fun name => (lastRow rows name).any fun r => r.status = .passed) names

/-- The tests of a plan that have a row which did not pass. -/
def storedFailed : Int64 :=
  countInt (fun name => (lastRow rows name).any fun r => !(r.status = .passed)) names

/-- There are results, and none of them failed. -/
def storedSuccess : Bool := !rows.isEmpty && storedFailed names rows = 0

end Counts

/-- What can be restored from the rows is what was recorded. -/
structure Consistent (names : List String) (q : Progress) (rows : List TestResult) : Prop where
  ended : q.terminal = true → decide (q.status = .completed) = storedSuccess names rows
  tested : q.interrupted names.length = true → rows ≠ []
  listed : ∀ r ∈ rows, r.isDeleted = false

/-! ## Stages -/

/-- A statement about a scenario: whether its tests have ended, and what its rows say. -/
structure Stage where
  late : Bool
  claim : Progress → List TestResult → Prop

/-- A stage, and a fact. -/
def Stage.given (c : Prop) (S : Stage) : Stage := ⟨S.late, fun q rows => c ∧ S.claim q rows⟩

/-- A stage in which something more is true of the results. -/
def Stage.also (S : Stage) (P : List TestResult → Prop) : Stage :=
  ⟨S.late, fun q rows => P rows ∧ S.claim q rows⟩

/-- The rows are in the stage. -/
structure Stage.Holds (names : List String) (S : Stage) (q : Progress) (rows : List TestResult) :
    Prop where
  late : q.phase.late = S.late
  consistent : Consistent names q rows
  claim : S.claim q rows

/-- The scenario with this session is in a stage. -/
def Database.At (db : Database) (id : String) (names : List String) (S : Stage) : Prop :=
  db.HasRow id fun s => s.isDeleted = false ∧ S.Holds names s.progress (db.resultsOf id)

/-- What the rows of a session say of its progress. -/
def Database.progressOf (db : Database) (id : String) : List (Bool × Progress) :=
  (db.sessions.filter fun s => s.id = id).map fun s => (s.isDeleted, s.progress)

/-- The progress of a session and the rows of its results stay as they are. A heartbeat may renew
    the lease of its row. -/
structure SameRows (id : String) (db db' : Database) : Prop where
  sessions : db'.progressOf id = db.progressOf id
  results : db'.resultsOf id = db.resultsOf id

/-- The scenario with this session is consistent. -/
def Database.Sound (db : Database) (id : String) (names : List String) : Prop :=
  db.HasRow id fun s => s.isDeleted = false ∧ Consistent names s.progress (db.resultsOf id)

/-- A scenario stays consistent, and once its tests have ended its results stay as they are. -/
structure Proceeds (id : String) (names : List String) (db db' : Database) : Prop where
  sound : db.Sound id names → db'.Sound id names
  late : (db.HasRow id fun s => s.progress.phase.late = true) →
    (db'.HasRow id fun s => s.progress.phase.late = true) ∧ db'.resultsOf id = db.resultsOf id

section Rows

variable {db db' db'' : Database} {id : String} {names : List String} {S S' : Stage} {c : Prop}
  {R : Bool → Progress → Prop}

theorem hasRow_iff_progressOf : db.HasRow id (fun s => R s.isDeleted s.progress) ↔
    (∃ p, p ∈ db.progressOf id) ∧ ∀ p ∈ db.progressOf id, R p.1 p.2 := by
  unfold Database.progressOf
  rw [List.forall_mem_map]
  refine and_congr ⟨?_, ?_⟩ ⟨fun h s hs => ?_, fun h s hs hid => ?_⟩
  · rintro ⟨s, hs, hid⟩
    exact ⟨_, List.mem_map_of_mem (List.mem_filter.2 ⟨hs, decide_eq_true hid⟩)⟩
  · rintro ⟨p, hp⟩
    obtain ⟨s, hs, -⟩ := List.mem_map.1 hp
    exact ⟨s, (List.mem_filter.1 hs).1, of_decide_eq_true (List.mem_filter.1 hs).2⟩
  · exact h s (List.mem_filter.1 hs).1 (of_decide_eq_true (List.mem_filter.1 hs).2)
  · exact h s (List.mem_filter.2 ⟨hs, decide_eq_true hid⟩)

theorem SameRows.refl (id : String) (db : Database) : SameRows id db db := ⟨rfl, rfl⟩

theorem SameRows.trans (h : SameRows id db db') (h' : SameRows id db' db'') :
    SameRows id db db'' := ⟨h'.sessions.trans h.sessions, h'.results.trans h.results⟩

theorem SameRows.hasRow (h : SameRows id db db') (R : Bool → Progress → Prop) :
    db'.HasRow id (fun s => R s.isDeleted s.progress) ↔
      db.HasRow id fun s => R s.isDeleted s.progress := by
  rw [hasRow_iff_progressOf, hasRow_iff_progressOf, h.sessions]

theorem SameRows.at (h : SameRows id db db') (hdb : db.At id names S) : db'.At id names S := by
  unfold Database.At at hdb ⊢
  rw [h.results]
  exact (h.hasRow fun deleted q => deleted = false ∧ S.Holds names q (db.resultsOf id)).2 hdb

theorem SameRows.proceeds (h : SameRows id db db') : Proceeds id names db db' := by
  refine ⟨fun hdb => ?_, fun hdb => ⟨(h.hasRow fun _ q => q.phase.late = true).2 hdb, h.results⟩⟩
  unfold Database.Sound at hdb ⊢
  rw [h.results]
  exact (h.hasRow fun deleted q => deleted = false ∧ Consistent names q (db.resultsOf id)).2 hdb

theorem Proceeds.refl (id : String) (names : List String) (db : Database) : Proceeds id names db db :=
  ⟨fun hdb => hdb, fun hdb => ⟨hdb, rfl⟩⟩

theorem Proceeds.trans (h : Proceeds id names db db') (h' : Proceeds id names db' db'') :
    Proceeds id names db db'' := by
  refine ⟨fun hdb => h'.sound (h.sound hdb), fun hdb => ?_⟩
  obtain ⟨hlate, hresults⟩ := h.late hdb
  obtain ⟨hlate', hresults'⟩ := h'.late hlate
  exact ⟨hlate', hresults'.trans hresults⟩

theorem Database.At.exists (hdb : db.At id names S) :
    ∃ q rows, S.Holds names q rows := by
  obtain ⟨⟨s, hs, hid⟩, hall⟩ := hdb
  exact ⟨_, _, (hall s hs hid).2⟩

theorem Database.At.sound (hdb : db.At id names S) : db.Sound id names :=
  HasRow.mono hdb fun _ hs => ⟨hs.1, hs.2.consistent⟩

/-- A call that leads from one stage to another. -/
theorem Database.At.proceeds (hdb : db.At id names S) (hdb' : db'.At id names S')
    (hlate : S.late = true → S'.late = true ∧ db'.resultsOf id = db.resultsOf id) :
    Proceeds id names db db' := by
  refine ⟨fun _ => hdb'.sound, fun hrow => ?_⟩
  obtain ⟨⟨s, hs, hid⟩, hall⟩ := hdb
  obtain ⟨hlate', hresults⟩ := hlate ((hall s hs hid).2.late ▸ hrow.2 s hs hid)
  exact ⟨hdb'.mono fun s hs => hs.2.late.trans hlate', hresults⟩

theorem Stage.holds_given {q : Progress} {rows : List TestResult} :
    (S.given c).Holds names q rows ↔ c ∧ S.Holds names q rows :=
  ⟨fun h => ⟨h.claim.1, h.late, h.consistent, h.claim.2⟩,
    fun h => ⟨h.2.late, h.2.consistent, h.1, h.2.claim⟩⟩

theorem Stage.holds_also {P : List TestResult → Prop} {q : Progress} {rows : List TestResult} :
    (S.also P).Holds names q rows ↔ P rows ∧ S.Holds names q rows :=
  ⟨fun h => ⟨h.claim.1, h.late, h.consistent, h.claim.2⟩,
    fun h => ⟨h.2.late, h.2.consistent, h.1, h.2.claim⟩⟩

theorem Stage.also_ok {ε β : Type} {v : β} {P : β → List TestResult → Prop} :
    (S.also fun rows => ∃ w, (Except.ok v : Except ε β) = .ok w ∧ P w rows) = S.also (P v) := by
  simp [Stage.also]

theorem Database.At.mono (hdb : db.At id names S)
    (h : ∀ q rows, S.Holds names q rows → S'.Holds names q rows) : db.At id names S' :=
  HasRow.mono hdb fun _ hs => ⟨hs.1, h _ _ hs.2⟩

theorem Database.At.given (hdb : db.At id names S) (hc : c) : db.At id names (S.given c) :=
  hdb.mono fun _ _ h => Stage.holds_given.2 ⟨hc, h⟩

theorem Database.At.of_given (hdb : db.At id names (S.given c)) : c ∧ db.At id names S := by
  obtain ⟨q, rows, h⟩ := hdb.exists
  exact ⟨(Stage.holds_given.1 h).1, hdb.mono fun _ _ h => (Stage.holds_given.1 h).2⟩

end Rows

/-! ## A store that persists -/

/-- A call does what it was meant to: a write succeeds, a result goes to a row of its own session and
    test, and no other session has the new id that a lookup asks for. -/
def StoreOp.persists (id : String) (db : Database) : StoreOp → Bool
  | .upsertSession session => (db.writeSession session).isOk
  | .upsertTestResult result =>
    (db.upsertTestResult result result.updatedAt (TestResult.rowKey db.collate)).isOk &&
      db.testResults.all fun old =>
        !(TestResult.rowKey db.collate old = TestResult.rowKey db.collate result) ||
          (old.sessionId = result.sessionId && old.testName = result.testName)
  | .getSessionByBackendSessionId backendSessionId =>
    match db.getSessionByBackendSessionId backendSessionId with
    | .ok session => session.id = id
    | .error _ => true
  | _ => true

/-- The call is answered, and it persists. -/
def Op.persists (id : String) (a : Answer) (db : Database) : Op → Bool
  | .store _ op => a.fault = .none && op.persists id db
  | _ => true

/-- The setting of a scenario that persists. Its context stays live. -/
def persisting (id : String) (names : List String) : Setting Op Reply Database Answer where
  handle := handleLive
  rely := SameRows id
  guard op a db := op.persists id a db = true
  guar := Proceeds id names
  rely_refl := SameRows.refl id
  rely_trans := SameRows.trans

/-- A program leads from a stage to another, which may depend on its result. -/
def Leads (id : String) (names : List String) (S : Stage) {α : Type} (p : Task α)
    (S' : α → Stage) : Prop :=
  ∀ db : Database, db.At id names S →
    (persisting id names).Safe (fun a db' => db'.At id names (S' a)) p db

namespace Leads

variable {α β : Type} {id : String} {names : List String} {S : Stage} {S' : α → Stage}
  {p : Task α} {c : Prop}

theorem pure {a : α} (h : ∀ q rows, S.Holds names q rows → (S' a).Holds names q rows) :
    Leads id names S (pure a) S' :=
  fun _ hdb => Setting.Safe.pure fun _ hsame => (SameRows.at hsame hdb).mono h

theorem bind {f : α → Task β} {S'' : β → Stage} (hp : Leads id names S p S')
    (hf : ∀ a, Leads id names (S' a) (f a) S'') : Leads id names S (p >>= f) S'' :=
  fun db hdb => Setting.Safe.bind (hp db hdb) fun a db' hdb' => hf a db' hdb'

theorem pure_bind {a : α} {f : α → Task β} {S'' : β → Stage} (h : Leads id names S (f a) S'') :
    Leads id names S (Pure.pure a >>= f) S'' := h

theorem mono {S'' : α → Stage} (hp : Leads id names S p S')
    (h : ∀ a q rows, (S' a).Holds names q rows → (S'' a).Holds names q rows) :
    Leads id names S p S'' :=
  fun db hdb => (hp db hdb).mono fun a _ hdb' => hdb'.mono (h a)

theorem weaken {M : Stage} (h : ∀ q rows, S.Holds names q rows → M.Holds names q rows)
    (hp : Leads id names M p S') : Leads id names S p S' :=
  fun db hdb => hp db (hdb.mono h)

/-- A fact that the stage gives. -/
theorem of_fact (hc : ∀ q rows, S.Holds names q rows → c) (h : c → Leads id names S p S') :
    Leads id names S p S' := by
  intro db hdb
  obtain ⟨q, rows, hholds⟩ := hdb.exists
  exact h (hc q rows hholds) db hdb

/-- A program after a call that cannot have failed. -/
theorem of_error {ε : Type} {e : ε} {P : β → List TestResult → Prop} :
    Leads id names (S.also fun rows => ∃ v, Except.error e = .ok v ∧ P v rows) p S' :=
  of_fact (fun q rows h => by simpa using h.claim.1) False.elim

theorem of_given (h : c → Leads id names S p S') : Leads id names (S.given c) p S' :=
  fun db hdb => h hdb.of_given.1 db hdb.of_given.2

/-- The rule for a call. -/
theorem perform {op : Op} {S' : Reply op → Stage}
    (h : ∀ a db, op.persists id a db = true → db.At id names S →
      (handleLive op a db).2.At id names (S' (handleLive op a db).1) ∧
        (S.late = true → (S' (handleLive op a db).1).late = true ∧
          (handleLive op a db).2.resultsOf id = db.resultsOf id)) :
    Leads id names S (Program.perform op) S' := by
  refine fun db hdb => Setting.Safe.perform fun db' hsame a ha => ?_
  have hdb' := SameRows.at hsame hdb
  obtain ⟨hat, hlate⟩ := h a db' ha hdb'
  exact ⟨hdb'.proceeds hat hlate, fun _ hsame' => SameRows.at hsame' hat⟩

/-- The rule for a call that leaves the database as it is. -/
theorem ask {op : Op} {fact : Reply op → Prop} (hstate : ∀ a db, (handleLive op a db).2 = db)
    (hfact : ∀ a db, op.persists id a db = true → db.At id names S →
      fact (handleLive op a db).1) :
    Leads id names S (Program.perform op) fun reply => S.given (fact reply) := by
  refine perform fun a db ha hdb => ?_
  rw [hstate]
  exact ⟨hdb.given (hfact a db ha hdb), fun hlate => ⟨hlate, rfl⟩⟩

end Leads

/-! ## Calls of the store -/

section Calls

variable {db db' : Database} {id : String} {names : List String} {S : Stage} {R : Session → Prop}

/-- The answer to a call that the store carries out. -/
theorem handleLive_ok {op : StoreOp} {detached : Bool} {a : Answer} {v : op.Value}
    (ha : a.fault = .none) (h : op.run a.now db = .ok (v, db')) :
    handleLive (.store detached op) a db = (.ok v, db') := by
  rw [handleLive_store, StoreOp.call, ha, h]
  rfl

theorem handleLive_error {op : StoreOp} {detached : Bool} {a : Answer} {e : DbError}
    (ha : a.fault = .none) (h : op.run a.now db = .error e) :
    handleLive (.store detached op) a db = (.error e, db) := by
  rw [handleLive_store, StoreOp.call, ha, h]
  rfl

theorem HasRow.appendSessionLog (hR : ∀ s logs updatedAt version, R s →
      R { s with logs, updatedAt, version }) (hrow : db.HasRow id R) {scenarioRunId message : String}
    {now : Time} (h : db.appendSessionLog scenarioRunId message now = .ok db') :
    db'.HasRow id R ∧ db'.testResults = db.testResults := by
  unfold Database.appendSessionLog at h
  split at h
  · cases h
  obtain ⟨logs, -, h⟩ := Transaction.bind_eq_ok.1 h
  obtain rfl := Except.ok.inj h
  obtain ⟨⟨s, hs, hid⟩, hall⟩ := hrow
  refine ⟨⟨⟨_, mem_updateWhere.2 ⟨s, hs, rfl⟩, ?_⟩, fun s' hs' hid' => ?_⟩, rfl⟩
  · split_ifs <;> exact hid
  · obtain ⟨old, hold, rfl⟩ := mem_updateWhere.1 hs'
    split_ifs at hid' ⊢
    · exact hR _ _ _ _ (hall old hold hid')
    · exact hall old hold hid'

/-- A log event does not touch what else a row says. -/
theorem HasRow.appendWorkflowLogEvent (hR : ∀ s logs updatedAt version, R s →
      R { s with logs, updatedAt, version }) (hrow : db.HasRow id R)
    {workflowRunId payload message scenarioRunId : String} {createdAt : Time}
    (h : db.appendWorkflowLogEvent workflowRunId payload createdAt message scenarioRunId
      = .ok db') : db'.HasRow id R ∧ db'.testResults = db.testResults := by
  obtain ⟨db₁, h₁, h⟩ := Transaction.bind_eq_ok.1 h
  have hrun : db₁.HasRow id R ∧ db₁.testResults = db.testResults := by
    unfold Database.appendRunLog at h₁
    split at h₁
    · cases h₁
    obtain ⟨logs, -, h₁⟩ := Transaction.bind_eq_ok.1 h₁
    obtain rfl := Except.ok.inj h₁
    exact ⟨hrow, rfl⟩
  dsimp only at h
  split_ifs at h
  · obtain rfl := Except.ok.inj h
    exact hrun
  · obtain ⟨db₂, h₂, h⟩ := Transaction.bind_eq_ok.1 h
    obtain rfl := Except.ok.inj h
    obtain ⟨hrow', hresults⟩ := HasRow.appendSessionLog hR hrun.1 h₂
    exact ⟨hrow', hresults.trans hrun.2⟩

theorem Op.external.at {op : Op} (hop : op.external) {a : Answer} (ha : op.persists id a db = true)
    (hdb : db.At id names S) : (handleLive op a db).2.At id names S ∧
      (handleLive op a db).2.resultsOf id = db.resultsOf id := by
  cases op with
  | store detached op =>
      have hfault : a.fault = .none := of_decide_eq_true (Bool.and_eq_true_iff.1 ha).1
      cases op with
      | appendWorkflowLogEvent workflowRunId payload createdAt message scenarioRunId =>
          cases hrun : db.appendWorkflowLogEvent workflowRunId payload createdAt message
              scenarioRunId with
          | error e =>
              rw [handleLive_error hfault (by simp only [StoreOp.run, hrun]; rfl)]
              exact ⟨hdb, rfl⟩
          | ok db' =>
              have hok : StoreOp.run a.now db (.appendWorkflowLogEvent workflowRunId payload
                  createdAt message scenarioRunId) = .ok ((), db') := by
                simp only [StoreOp.run, hrun]
                rfl
              rw [handleLive_ok hfault hok]
              obtain ⟨hrow, hresults⟩ :=
                HasRow.appendWorkflowLogEvent (fun _ _ _ _ hs => hs) hdb hrun
              have hsame : db'.resultsOf id = db.resultsOf id := by
                rw [Database.resultsOf, hresults]
                rfl
              unfold Database.At
              rw [hsame]
              exact ⟨hrow, rfl⟩
      | appendWorkflowRunEvent workflowRunId eventType payload createdAt =>
          rw [handleLive_ok hfault rfl]
          exact ⟨hdb, rfl⟩
      | _ => exact hop.elim
  | runTest test => exact hop.elim
  | _ => exact ⟨hdb, rfl⟩

theorem External.leads {α : Type} {p : Task α} (hp : External p) :
    Leads id names S p fun _ => S := by
  refine fun db hdb => Setting.Safe.of_uses (fun db => Database.At db id names S) hp
    (fun hsame hdb => SameRows.at hsame hdb) (fun hop ha hdb => ?_) hdb
  obtain ⟨hdb', hresults⟩ := hop.at ha hdb
  exact ⟨hdb.proceeds hdb' fun hlate => ⟨hlate, hresults⟩, hdb'⟩

/-! ## Reading and writing the row -/

/-- A row was read, and it is in the stage. -/
def Read (id : String) (names : List String) (S : Stage) (s : Session) (rows : List TestResult) :
    Prop :=
  s.id = id ∧ s.isDeleted = false ∧ S.Holds names s.progress rows

theorem Leads.getSession (detached : Bool) :
    Leads id names S (Task.store detached (.getSession id)) fun r =>
      S.also fun rows => ∃ s, r = .ok s ∧ Read id names S s rows := by
  refine Leads.perform fun a db ha hdb => ?_
  have hfault : a.fault = .none := of_decide_eq_true (Bool.and_eq_true_iff.1 ha).1
  obtain ⟨s, hread, hid, hdeleted, hs⟩ := Database.HasRow.readSession hdb (fun _ _ _ _ hs => hs)
    fun _ hs => hs.1
  have hok : StoreOp.run a.now db (.getSession id) = .ok (s, db) := by
    simp only [StoreOp.run, hread]
    rfl
  rw [handleLive_ok hfault hok]
  refine ⟨Database.HasRow.mono hdb fun s' hs' => ⟨hs'.1, ?_⟩, fun hlate => ⟨hlate, rfl⟩⟩
  exact Stage.holds_also.2 ⟨⟨s, rfl, hid, hdeleted, hs⟩, hs'.2⟩

theorem Leads.upsertSession {T : Stage} {row : Session} (detached : Bool) (hid : row.id = id)
    (hdeleted : row.isDeleted = false)
    (h : ∀ q rows, S.Holds names q rows → T.Holds names row.progress rows)
    (hlate : S.late = true → T.late = true) :
    Leads id names S (Task.store detached (.upsertSession row)) fun r => T.given (r = .ok ()) := by
  refine Leads.perform fun a db ha hdb => ?_
  obtain ⟨hfault, hwrites⟩ := Bool.and_eq_true_iff.1 ha
  obtain ⟨db', hwrite⟩ : ∃ db', db.writeSession row = .ok db' := by
    cases hwrite : db.writeSession row with
    | ok db' => exact ⟨db', rfl⟩
    | error e => simp [StoreOp.persists, hwrite, Except.isOk, Except.toBool] at hwrites
  have hok : StoreOp.run a.now db (.upsertSession row) = .ok ((), db') := by
    simp only [StoreOp.run, hwrite]
    rfl
  rw [handleLive_ok (of_decide_eq_true hfault) hok]
  have hsame : db'.resultsOf id = db.resultsOf id := by
    rw [Database.resultsOf, (writeSession_testResults hwrite).1]
    rfl
  obtain ⟨q, rows, hrow⟩ := hdb.exists
  refine ⟨?_, fun hl => ⟨hlate hl, hsame⟩⟩
  unfold Database.At
  rw [hsame]
  obtain ⟨⟨s, hs, hsid⟩, hall⟩ := hdb
  refine Database.HasRow.written ⟨⟨s, hs, hsid⟩, hall⟩ hid (fun _ _ _ _ hs => hs) ?_ hwrite
  exact ⟨hdeleted, Stage.holds_given.2 ⟨rfl, h _ _ (hall s hs hsid).2⟩⟩

/-! ## Updates of the row -/

/-- The row that an update returns. -/
def Updated (id : String) (names : List String) (S : Stage) (v : Option Session)
    (rows : List TestResult) : Prop := ∃ p, v = some p ∧ Read id names S p rows

/-- **An update of the row** leads from a stage to the one of what it makes of a row in the stage. -/
theorem Leads.updatePersistedSession {T : Stage} (hid : id ≠ "") (detached : Bool)
    {mutate : Session → Task (Except String Session)}
    (hmutate : ∀ s, s.id = id → s.isDeleted = false →
      Leads id names (S.also (S.Holds names s.progress)) (mutate s) fun r =>
        S.also fun rows => ∃ next, r = .ok next ∧ Read id names T next rows)
    (hlate : S.late = true → T.late = true) :
    Leads id names S (Handler.updatePersistedSession detached id mutate) fun r =>
      T.also fun rows => ∃ v, r = .ok v ∧ Updated id names T v rows := by
  rw [Handler.updatePersistedSession, if_neg hid, Handler.updateAttempts]
  refine Leads.bind (Leads.getSession detached) fun r => ?_
  cases r with
  | error e => exact Leads.of_error
  | ok s =>
  rw [Stage.also_ok]
  refine Leads.of_fact (fun q rows h => h.claim.1.imp_right And.left) ?_
  rintro ⟨hsid, hdeleted⟩
  refine Leads.weaken (M := S.also (S.Holds names s.progress)) (fun q rows h => ?_) ?_
  · obtain ⟨hread, hs⟩ := Stage.holds_also.1 h
    exact Stage.holds_also.2 ⟨hread.2.2, hs⟩
  -- the row that the read gave is changed and written back whole
  refine Leads.bind (hmutate s hsid hdeleted) fun r => ?_
  cases r with
  | error e => exact Leads.of_error
  | ok next =>
  rw [Stage.also_ok]
  refine Leads.of_fact (fun q rows h => h.claim.1.imp_right And.left) ?_
  rintro ⟨hnid, hndeleted⟩
  refine Leads.bind (External.leads (p := Task.now) (Uses.perform trivial)) fun now => ?_
  refine Leads.bind (Leads.upsertSession (T := T.also (T.Holds names next.progress)) detached hnid
    hndeleted (fun q rows h => ?_) hlate) fun r => ?_
  · have hnext := h.claim.1.2.2
    exact Stage.holds_also.2 ⟨hnext, hnext⟩
  refine Leads.of_given fun hr => ?_
  subst hr
  refine Leads.pure fun q rows h => ?_
  obtain ⟨hnext, hs⟩ := Stage.holds_also.1 h
  exact Stage.holds_also.2 ⟨⟨_, rfl, _, rfl, hnid, hndeleted, hnext⟩, hs⟩

/-- An update that does not fail. -/
theorem Leads.timed {T : Stage} (hid : id ≠ "") (detached : Bool) {f : Time → Session → Session}
    (hf : ∀ now s, (f now s).id = s.id ∧ (f now s).isDeleted = s.isDeleted)
    (h : ∀ now s rows, S.Holds names s.progress rows → T.Holds names (f now s).progress rows)
    (hlate : S.late = true → T.late = true) :
    Leads id names S (Handler.updatePersistedSession detached id (Handler.timed f)) fun r =>
      T.also fun rows => ∃ v, r = .ok v ∧ Updated id names T v rows := by
  refine Leads.updatePersistedSession hid detached (fun s hsid hdeleted => ?_) hlate
  refine Leads.bind (External.leads (p := Task.now) (Uses.perform trivial)) fun now => ?_
  refine Leads.pure fun q rows hs => ?_
  obtain ⟨hread, hs⟩ := Stage.holds_also.1 hs
  exact Stage.holds_also.2 ⟨⟨_, rfl, (hf now s).1.trans hsid, (hf now s).2.trans hdeleted,
    h now s rows hread⟩, hs⟩

/-- `updateScenario`. -/
theorem Leads.updateScenario {T : Stage} {scenario : RunScenario}
    (hid : scenario.scenarioRunId = id) {status : ExecutionStatus} {backendId message : String}
    {result : Option ScenarioResponse}
    (h : ∀ q rows, S.Holds names q rows →
      T.Holds names ⟨status, (Execution.finalPhase status).getD q.phase, q.checkpointIndex⟩ rows)
    (hlate : S.late = true → T.late = true) :
    Leads id names S (Execution.updateScenario scenario status backendId message result)
      fun e => T.given (e = none) := by
  rw [Execution.updateScenario, hid]
  refine Leads.bind (Leads.getSession false) fun r => ?_
  cases r with
  | error e => exact Leads.of_error
  | ok s =>
  rw [Stage.also_ok]
  refine Leads.of_fact (fun q rows h => h.claim.1.imp_right And.left) ?_
  rintro ⟨hsid, hdeleted⟩
  refine Leads.bind (External.leads (p := Task.now) (Uses.perform trivial)) fun now => ?_
  refine Leads.bind (Leads.upsertSession (T := T) false hsid hdeleted
    (fun q rows hs => h _ rows hs.claim.1.2.2) hlate) fun r => ?_
  refine Leads.of_given fun hr => ?_
  subst hr
  exact Leads.pure fun q rows hs => Stage.holds_given.2 ⟨rfl, hs⟩

end Calls

/-! ## The updates of the handler -/

namespace Handler

variable (h : Handler) {id : String} {names : List String} {S T : Stage}

theorem leads_persistCheckpoint (hid : id ≠ "") (detached : Bool) (index : Int)
    (phase : SessionPhase) (finalStatus : Option ExecutionStatus) (finalSummary : Option Json)
    (hT : ∀ q rows, S.Holds names q rows →
      T.Holds names ⟨finalStatus.getD q.status, phase, index⟩ rows)
    (hlate : S.late = true → T.late = true) :
    Leads id names S (h.persistCheckpoint detached id index phase finalStatus finalSummary)
      fun _ => T := by
  refine Leads.bind (Leads.timed hid detached (fun _ _ => ⟨rfl, rfl⟩)
    (fun _ s rows hs => hT s.progress rows hs) hlate) fun _ => ?_
  exact Leads.pure fun q rows hs => (Stage.holds_also.1 hs).2

theorem leads_releaseSessionLease (hid : id ≠ "") (detached : Bool) :
    Leads id names S (releaseSessionLease detached id) fun _ => S := by
  refine Leads.bind (Leads.timed hid detached (fun _ _ => ⟨rfl, rfl⟩)
    (fun _ _ _ hs => hs) fun hlate => hlate) fun _ => ?_
  exact Leads.pure fun q rows hs => (Stage.holds_also.1 hs).2

theorem leads_persistProvisionedState (hid : id ≠ "") (runtime : ProvisionedRuntime)
    (hT : ∀ q rows, S.Holds names q rows →
      T.Holds names ⟨.running, .provisioned, q.checkpointIndex⟩ rows)
    (hlate : S.late = true → T.late = true) :
    Leads id names S (h.persistProvisionedState id runtime) fun _ => T := by
  refine Leads.bind (Leads.timed hid false (fun _ _ => ⟨rfl, rfl⟩)
    (fun _ s rows hs => hT s.progress rows hs) hlate) fun _ => ?_
  exact Leads.pure fun q rows hs => (Stage.holds_also.1 hs).2

theorem leads_persistSessionFailure (hid : id ≠ "") (error : String) (phase : SessionPhase)
    (hT : ∀ q rows, S.Holds names q rows →
      T.Holds names ⟨.failed, phase, q.checkpointIndex⟩ rows)
    (hlate : S.late = true → T.late = true) :
    Leads id names S (persistSessionFailure id error phase) fun _ => T := by
  refine Leads.bind (Leads.timed hid false (fun _ _ => ⟨rfl, rfl⟩)
    (fun _ s rows hs => hT s.progress rows hs) hlate) fun _ => ?_
  exact Leads.pure fun q rows hs => (Stage.holds_also.1 hs).2

theorem leads_ensureTestPlan (hid : id ≠ "") (tests : List TestConfig)
    (hT : ∀ q rows, S.Holds names q rows →
      T.Holds names ⟨q.status, .runningTests, q.checkpointIndex⟩ rows)
    (hlate : S.late = true → T.late = true) :
    Leads id names S (h.ensureTestPlan id tests) fun e => T.given (e = none) := by
  refine Leads.bind (Leads.timed hid false (fun _ _ => ⟨rfl, rfl⟩)
    (fun _ s rows hs => hT s.progress rows hs) hlate) fun r => ?_
  cases r with
  | error e => exact Leads.of_error
  | ok p => exact Leads.pure fun q rows hs => Stage.holds_given.2 ⟨rfl, (Stage.holds_also.1 hs).2⟩

end Handler

/-! ## Rows of results -/

/-- The status that the row of a result has. -/
def resultStatus (result : Dto.TestResult) : TestStatus :=
  if result.passed then .passed else .failed

/-- The result that counts for a test. -/
def lastResult (results : List Dto.TestResult) (name : String) : Option Dto.TestResult :=
  results.reverse.find? fun r => r.name = name

/-- The rows of a session hold the results of its tests. -/
structure Held (persisted : Session) (results : List Dto.TestResult) (rows : List TestResult) :
    Prop where
  ids : ∀ r ∈ rows, r.id = Handler.testResultId persisted r.testName
  listed : ∀ r ∈ rows, r.isDeleted = false
  last : ∀ name, (lastRow rows name).map (·.status) = (lastResult results name).map resultStatus

section Held

variable {persisted : Session} {results : List Dto.TestResult} {rows : List TestResult}

theorem lastRow_concat (row : TestResult) (name : String) :
    lastRow (rows ++ [row]) name = if row.testName = name then some row else lastRow rows name := by
  unfold lastRow
  rw [List.reverse_append, List.reverse_singleton, List.singleton_append, List.find?_cons]
  by_cases hname : row.testName = name <;> simp [hname]

theorem lastResult_concat (result : Dto.TestResult) (name : String) :
    lastResult (results ++ [result]) name
      = if result.name = name then some result else lastResult results name := by
  unfold lastResult
  rw [List.reverse_append, List.reverse_singleton, List.singleton_append, List.find?_cons]
  by_cases hname : result.name = name <;> simp [hname]

theorem lastRow_spec {name : String} {r : TestResult} (h : lastRow rows name = some r) :
    r ∈ rows ∧ r.testName = name :=
  ⟨List.mem_reverse.1 (List.mem_of_find?_eq_some h), by simpa using List.find?_some h⟩

theorem exists_lastRow {r : TestResult} (hr : r ∈ rows) :
    ∃ r', lastRow rows r.testName = some r' := by
  rw [← Option.isSome_iff_exists, lastRow, List.find?_isSome]
  exact ⟨r, List.mem_reverse.2 hr, by simp⟩

/-- An update that keeps the names updates the row that counts. -/
theorem lastRow_updateWhere {p : TestResult → Bool} {f : TestResult → TestResult}
    (hf : ∀ r, (f r).testName = r.testName) (name : String) :
    lastRow (updateWhere p f rows) name
      = (lastRow rows name).map fun r => if p r then f r else r := by
  unfold lastRow updateWhere
  rw [← List.map_reverse, List.find?_map]
  congr 1
  refine List.find?_congr fun r _ => ?_
  rw [Function.comp_apply]
  split_ifs <;> simp [hf]

theorem Held.rows_eq_nil_iff (h : Held persisted results rows) : rows = [] ↔ results = [] := by
  constructor
  · rintro rfl
    refine List.eq_nil_iff_forall_not_mem.2 fun r hr => ?_
    have hnone : lastResult results r.name = none := by simpa [lastRow] using (h.last r.name).symm
    have := List.find?_eq_none.1 hnone r (List.mem_reverse.2 hr)
    simp at this
  · rintro rfl
    refine List.eq_nil_iff_forall_not_mem.2 fun r hr => ?_
    obtain ⟨r', hr'⟩ := exists_lastRow hr
    have := h.last r.testName
    simp [hr', lastResult] at this

/-- **One more result**: its row is written, over the one of its test or as a new one. -/
theorem Held.concat (h : Held persisted results rows) (result : Dto.TestResult) (now : Time)
    {key : TestResult → String} (hkey : ∀ r r', r.id = r'.id → key r = key r')
    (hnames : ∀ r ∈ rows, key r = key (Handler.testResultRow persisted result now) →
      r.testName = result.name) :
    Held persisted (results ++ [result])
      (upsert key (Handler.testResultRow persisted result now)
        (mergeResult (Handler.testResultRow persisted result now) now) rows) := by
  generalize hrow : Handler.testResultRow persisted result now = row at hnames ⊢
  have hid : row.id = Handler.testResultId persisted result.name := by rw [← hrow]; rfl
  have hname : row.testName = result.name := by rw [← hrow]; rfl
  have hstatus : row.status = resultStatus result := by rw [← hrow]; rfl
  have hdeleted : row.isDeleted = false := by rw [← hrow]; rfl
  cases hfind : find key (key row) rows with
  | none =>
      rw [upsert_of_none hfind]
      refine ⟨fun r hr => ?_, fun r hr => ?_, fun name => ?_⟩
      · rcases List.mem_append.1 hr with hr | hr
        · exact h.ids r hr
        · rw [List.mem_singleton.1 hr, hid, hname]
      · rcases List.mem_append.1 hr with hr | hr
        · exact h.listed r hr
        · rw [List.mem_singleton.1 hr, hdeleted]
      · rw [lastRow_concat, lastResult_concat, hname]
        split_ifs
        · rw [Option.map_some, Option.map_some, hstatus]
        · exact h.last name
  | some old =>
      obtain ⟨hold, holdKey⟩ := find_some hfind
      rw [upsert_of_some hfind]
      refine ⟨fun r hr => ?_, fun r hr => ?_, fun name => ?_⟩
      · obtain ⟨s, hs, rfl⟩ := mem_updateWhere.1 hr
        split_ifs
        · exact h.ids s hs
        · exact h.ids s hs
      · obtain ⟨s, hs, rfl⟩ := mem_updateWhere.1 hr
        split_ifs
        · exact hdeleted
        · exact h.listed s hs
      · have hkeeps : ∀ r, (mergeResult row now r).testName = r.testName := fun _ => rfl
        rw [lastRow_updateWhere hkeeps, lastResult_concat, Option.map_map]
        split_ifs with heq
        · -- the row of the test is there, and it has the id
          subst heq
          obtain ⟨r, hr⟩ := exists_lastRow hold
          rw [hnames old hold holdKey] at hr
          obtain ⟨hmem, hrname⟩ := lastRow_spec hr
          have hrkey : key r = key row := hkey r row (by rw [h.ids r hmem, hrname, hid])
          simp [hr, hrkey, mergeResult, hstatus]
        · rw [← h.last name]
          cases hr : lastRow rows name with
          | none => rfl
          | some r =>
              obtain ⟨hmem, hrname⟩ := lastRow_spec hr
              have hrkey : key r ≠ key row := fun hrkey =>
                heq ((hnames r hmem hrkey).symm.trans hrname)
              simp [hrkey]

/-- Whatever is left of early phases is consistent. -/
theorem consistent_of_early {names : List String} {q : Progress} (h : q.phase.late = false)
    (hlisted : ∀ r ∈ rows, r.isDeleted = false) : Consistent names q rows := by
  obtain ⟨status, phase, index⟩ := q
  refine ⟨fun hended => ?_, fun htested => ?_, hlisted⟩
  · cases phase <;> simp_all [Progress.terminal, SessionPhase.late]
  · cases phase <;> simp_all [Progress.interrupted, SessionPhase.late]

end Held

/-- The tests of a scenario are running, and the results so far are stored. -/
def Stage.running (persisted : Session) (results : List Dto.TestResult) : Stage :=
  ⟨false, fun _ rows => Held persisted results rows⟩

theorem Handler.leads_persistTestResult {id : String} {names : List String} {persisted : Session}
    (hid : persisted.id = id) (results : List Dto.TestResult) (result : Dto.TestResult) :
    Leads id names (.running persisted results) (persistTestResult persisted result)
      fun _ => .running persisted (results ++ [result]) := by
  refine Leads.bind (External.leads (p := Task.now) (Uses.perform trivial)) fun now => ?_
  generalize hrow : testResultRow persisted result now = row
  have hsession : row.sessionId = id := by rw [← hrow]; exact hid
  have hupdated : row.updatedAt = now := by rw [← hrow]; rfl
  have hrowId : row.id = testResultId persisted result.name := by rw [← hrow]; rfl
  have hname : row.testName = result.name := by rw [← hrow]; rfl
  suffices h : Leads id names (.running persisted results) (Task.store false (.upsertTestResult row))
      fun _ => .running persisted (results ++ [result]) from
    Leads.bind h fun _ => Leads.pure fun _ _ h => h
  refine Leads.perform fun a db ha hdb => ?_
  obtain ⟨hfault, hpersists⟩ := Bool.and_eq_true_iff.1 ha
  obtain ⟨hwrites, hids⟩ := Bool.and_eq_true_iff.1 hpersists
  -- the row that is written over, if any, is an earlier one of this session and test
  have hown : ∀ old ∈ db.testResults,
      TestResult.rowKey db.collate old = TestResult.rowKey db.collate row →
      old.sessionId = id ∧ old.testName = result.name := by
    intro old hold hkey
    have hold' := List.all_eq_true.1 hids old hold
    simpa [hkey, hsession, hname] using hold'
  obtain ⟨db', hwrite⟩ : ∃ db',
      db.upsertTestResult row row.updatedAt (TestResult.rowKey db.collate) = .ok db' := by
    cases hwrite : db.upsertTestResult row row.updatedAt (TestResult.rowKey db.collate) with
    | ok db' => exact ⟨db', rfl⟩
    | error e => simp [hwrite, Except.isOk, Except.toBool] at hwrites
  have hok : StoreOp.run a.now db (.upsertTestResult row) = .ok ((), db') := by
    simp only [StoreOp.run, hwrite]
    rfl
  rw [handleLive_ok (of_decide_eq_true hfault) hok]
  refine ⟨?_, fun hlate => by cases hlate⟩
  unfold Database.upsertTestResult at hwrite
  dsimp only at hwrite
  split_ifs at hwrite
  obtain rfl := Except.ok.inj hwrite
  have hresults : (upsert (TestResult.rowKey db.collate) row (mergeResult row row.updatedAt)
      db.testResults).filter (fun r => decide (r.sessionId = id))
        = upsert (TestResult.rowKey db.collate) row (mergeResult row now) (db.resultsOf id) := by
    rw [hupdated]
    exact filter_upsert (decide_eq_true hsession) (fun _ => rfl)
      fun r hr hkey => decide_eq_true (hown r hr hkey).1
  refine Database.HasRow.mono hdb fun s hs => ⟨hs.1, ?_⟩
  have hheld : Held persisted (results ++ [result])
      (upsert (TestResult.rowKey db.collate) row (mergeResult row now) (db.resultsOf id)) := by
    subst hrow
    exact Held.concat hs.2.claim result now (fun _ _ hsame => congrArg db.collate hsame)
      fun r hr hkey => (hown r (List.mem_filter.1 hr).1 hkey).2
  show Stage.Holds names _ s.progress
    ((upsert (TestResult.rowKey db.collate) row (mergeResult row row.updatedAt)
      db.testResults).filter fun r => decide (r.sessionId = id))
  rw [hresults]
  exact ⟨hs.2.late, consistent_of_early hs.2.late hheld.listed, hheld⟩

end TokyoTester
