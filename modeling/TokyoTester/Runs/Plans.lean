import TokyoTester.Runs.Resume

set_option autoImplicit false

/-! # The plan of a request

Requests run tests on one session, one after another. Each stores its results under the names of its
tests, and how far its plan has come; the next one reads both back and applies them to its own plan.
The rows of a session always come from executions in this session (`Requests.recorded`), although
one row may serve several names. So a request executes its plan when what the collation compares of
a name stands for one test, and when there is a stored result for every test that the checkpoint
skips (`request_executes_plan`). -/

namespace TokyoTester

open Program Handler

/-! ## Rows and executions -/

/-- What the id of a stored result is made of. -/
structure SessionKey where
  id : String
  workflowRunId : String
  scenarioId : String
deriving DecidableEq

def Session.key (s : Session) : SessionKey := ⟨s.id, s.workflowRunId, s.scenarioId⟩

/-- `testResultId` on a session with this key. -/
def SessionKey.resultId (k : SessionKey) (testName : String) : String :=
  if k.workflowRunId ≠ "" ∧ k.scenarioId ≠ "" then
    k.workflowRunId ++ "_" ++ k.scenarioId ++ "_" ++ testName
  else k.id ++ "_" ++ testName

/-- The result is that of an execution of the test. -/
def ExecutedIn (events : List (Event Reply)) (test : TestConfig) (result : Dto.TestResult) : Prop :=
  ∃ scenarioId run, ⟨.runTest test, run⟩ ∈ events ∧ result = requestResult scenarioId test run

theorem ExecutedIn.mono {events events' : List (Event Reply)} {test : TestConfig}
    {result : Dto.TestResult} (h : ExecutedIn events test result) (hsub : events ⊆ events') :
    ExecutedIn events' test result := by
  obtain ⟨scenarioId, run, hrun, rfl⟩ := h
  exact ⟨scenarioId, run, hsub hrun, rfl⟩

/-- A row of a session stores the result of an execution. Its id is that of the test, and that of
    the name in the row, as far as the collation tells. -/
def Recorded (collate : String → String) (k : SessionKey) (events : List (Event Reply))
    (row : TestResult) : Prop :=
  row.sessionId = k.id → ∃ test result, ExecutedIn events test result ∧ test.type ≠ "" ∧
    collate row.id = collate (k.resultId test.name) ∧
    collate row.id = collate (k.resultId row.testName) ∧
    row.status = (if result.passed then .passed else .failed) ∧
    row.resultData = PersistedTestResult.codec.marshal
      { result, interpolationData := some (interpolationPayload result) }

theorem Recorded.mono {collate : String → String} {k : SessionKey}
    {events events' : List (Event Reply)} {row : TestResult} (h : Recorded collate k events row)
    (hsub : events ⊆ events') : Recorded collate k events' row := by
  intro hrow
  obtain ⟨test, result, hexecuted, hstored⟩ := h hrow
  exact ⟨test, result, hexecuted.mono hsub, hstored⟩

theorem requestResult_name (scenarioId : String) (test : TestConfig) (run : TestRun) :
    (requestResult scenarioId test run).name = test.name ∧
      (requestResult scenarioId test run).type = test.type := by
  cases run with
  | notInterpolated e => exact ⟨rfl, rfl⟩
  | executed retryReason attempts durationMs recovered failure =>
      unfold requestResult
      split_ifs
      · cases failure <;> exact ⟨rfl, rfl⟩
      · exact ⟨rfl, rfl⟩

/-- A row serves an executed test: the collation does not tell its id from that of the row's test,
    and the row restores the result of the execution when the two have one name. -/
def ServesRow (collate : String → String) (k : SessionKey) (events : List (Event Reply))
    (row : TestResult) (test : TestConfig) : Prop :=
  Started test events ∧ collate (k.resultId test.name) = collate (k.resultId row.testName) ∧
    (row.testName = test.name → ExecutedIn events test (Handler.restoreResult row))

/-- **What is restored from a row is the result that was stored.** -/
theorem Recorded.serves {collate : String → String} {k : SessionKey}
    {events : List (Event Reply)} {row : TestResult} (h : Recorded collate k events row)
    (hrow : row.sessionId = k.id) : ∃ test, ServesRow collate k events row test := by
  obtain ⟨test, result, ⟨scenarioId, run, hrun, rfl⟩, htype, hid, hown, hstatus, hdata⟩ := h hrow
  refine ⟨test, ⟨run, hrun⟩, hid.symm.trans hown, fun hname => ⟨scenarioId, run, hrun, ?_⟩⟩
  obtain ⟨hresultName, hresultType⟩ := requestResult_name scenarioId test run
  unfold Handler.restoreResult
  rw [hdata, Codec.unmarshal_marshal, hstatus, hname]
  generalize requestResult scenarioId test run = result at *
  obtain ⟨name, type, passed, error, durationMs, attempts, recovered, containerLogs, diagnostic⟩ :=
    result
  obtain rfl := hresultName
  obtain rfl := hresultType
  simp [firstNonEmpty, htype]

/-! ## The stored results of the session -/

/-- The rows of a session are left alone, or removed. -/
structure KeepsSession (sessionId : String) (db db' : Database) : Prop where
  collate : db'.collate = db.collate
  rows : ∀ row ∈ db'.testResults, row.sessionId = sessionId → row ∈ db.testResults

theorem KeepsSession.of_eq {sessionId : String} {db db' : Database}
    (hcollate : db'.collate = db.collate) (hrows : db'.testResults = db.testResults) :
    KeepsSession sessionId db db' :=
  ⟨hcollate, fun _ hrow _ => hrows ▸ hrow⟩

theorem KeepsSession.trans {sessionId : String} {db db' db'' : Database}
    (h : KeepsSession sessionId db db') (h' : KeepsSession sessionId db' db'') :
    KeepsSession sessionId db db'' :=
  ⟨h'.collate.trans h.collate, fun row hrow hsession =>
    h.rows row (h'.rows row hrow hsession) hsession⟩

/-- The setting of requests on a session: others write results too, but not in its rows. -/
def requestSetting (sessionId : String) : Setting Op Reply ThreadState Answer where
  handle := handle
  rely s s' := KeepsSession sessionId s.db s'.db
  guard _ _ _ := True
  guar _ _ := True
  rely_refl _ := .of_eq rfl rfl
  rely_trans h h' := h.trans h'

/-- Calls are made that leave the test results of the session alone. -/
structure Onward (sessionId : String) (j j' : RunJournal) : Prop where
  events : j.events <+: j'.events
  kept : KeepsSession sessionId j.state.db j'.state.db

/-- A statement about the past and about the stored results. -/
def Lasting (sessionId : String) (P : RunJournal → Prop) : Prop :=
  ∀ ⦃j j'⦄, Onward sessionId j j' → P j → P j'

theorem writeSession_testResults {db db' : Database} {session : Session}
    (h : db.writeSession session = .ok db') :
    db'.testResults = db.testResults ∧ db'.collate = db.collate := by
  unfold Database.writeSession at h
  split_ifs at h
  obtain rfl := Except.ok.inj h
  exact ⟨rfl, rfl⟩

/-- A call that leaves the test results alone. -/
def Op.keepsResults : Op → Prop
  | .store _ (.getSession _) => True
  | .store _ (.getSessionByBackendSessionId _) => True
  | .store _ (.findSessionByExecution _ _) => True
  | .store _ (.upsertSession _) => True
  | .store _ (.listTestResults _) => True
  | .store _ _ => False
  | _ => True

theorem Op.updatesRow.keepsResults {op : Op} (h : op.updatesRow) : op.keepsResults := by
  cases op with
  | store detached op => cases op <;> first | exact h.elim | trivial
  | _ => trivial

theorem handle_testResults {op : Op} (hop : op.keepsResults) (a : Answer) (s : ThreadState) :
    (handle op a s).2.db.testResults = s.db.testResults ∧
      (handle op a s).2.db.collate = s.db.collate := by
  cases op with
  | store detached op =>
      have hcall : (op.call a.fault a.now s.db).2.testResults = s.db.testResults ∧
          (op.call a.fault a.now s.db).2.collate = s.db.collate := by
        have hafter {db' : Database} (heq : db' = (op.call a.fault a.now s.db).2)
            (hkept : db'.testResults = s.db.testResults ∧ db'.collate = s.db.collate) :
            (op.call a.fault a.now s.db).2.testResults = s.db.testResults ∧
              (op.call a.fault a.now s.db).2.collate = s.db.collate := heq ▸ hkept
        rcases Fault.apply_cases a.fault s.db (op.run a.now s.db) with hnone | ⟨v, hrun⟩
        · exact hafter hnone.symm ⟨rfl, rfl⟩
        -- the only statements that may run here are the reads and the write of the session row
        · cases op with
          | upsertSession session =>
              obtain ⟨db, hwrite, heq⟩ := Transaction.map_eq_ok.1 hrun
              exact hafter (Prod.mk.inj heq).2 (writeSession_testResults hwrite)
          | getSession id =>
              obtain ⟨row, -, heq⟩ := Transaction.map_eq_ok.1 hrun
              exact hafter (Prod.mk.inj heq).2 ⟨rfl, rfl⟩
          | getSessionByBackendSessionId id =>
              obtain ⟨row, -, heq⟩ := Transaction.map_eq_ok.1 hrun
              exact hafter (Prod.mk.inj heq).2 ⟨rfl, rfl⟩
          | findSessionByExecution run scenario =>
              obtain ⟨row, -, heq⟩ := Transaction.map_eq_ok.1 hrun
              exact hafter (Prod.mk.inj heq).2 ⟨rfl, rfl⟩
          | listTestResults id =>
              exact hafter (Prod.mk.inj (Except.ok.inj hrun)).2 ⟨rfl, rfl⟩
          | _ => exact hop.elim
      simp only [handle]
      split_ifs
      · exact ⟨rfl, rfl⟩
      · exact hcall
  | _ => exact ⟨rfl, rfl⟩

theorem keepsSession_handle {op : Op} (hop : op.keepsResults) (sessionId : String) (a : Answer)
    (s : ThreadState) : KeepsSession sessionId s.db (handle op a s).2.db :=
  .of_eq (handle_testResults hop a s).2 (handle_testResults hop a s).1

/-- Every stored result of the session is that of an execution. -/
def RowsRecorded (k : SessionKey) (past : List (Event Reply)) (j : RunJournal) : Prop :=
  ∀ row ∈ j.state.db.testResults, Recorded j.state.db.collate k (past ++ j.events) row

theorem append_subset_append {past : List (Event Reply)} {j j' : RunJournal}
    (h : j.events <+: j'.events) : past ++ j.events ⊆ past ++ j'.events :=
  List.append_subset.2 ⟨List.subset_append_left _ _, fun _ he =>
    List.mem_append_right _ (h.subset he)⟩

/-- The setting of requests with a journal; every call keeps the rows recorded. -/
def recordingSetting (k : SessionKey) (past : List (Event Reply)) :
    Setting Op Reply RunJournal Answer :=
  { (requestSetting k.id).journaled fun _ _ => True with
    guar := fun j j' => RowsRecorded k past j → RowsRecorded k past j' }

/-- A program of a request, judged with its calls. -/
abbrev RequestKeeps {α : Type} (k : SessionKey) (past : List (Event Reply))
    (post : α → RunJournal → Prop) (p : Task α) (j : RunJournal) : Prop :=
  (recordingSetting k past).Safe post p j

section Rules

variable {k : SessionKey} {past : List (Event Reply)} {α : Type} {P : RunJournal → Prop}
  {j : RunJournal} {p : Task α} {post : α → RunJournal → Prop}

theorem lasting_rowsRecorded : Lasting k.id (RowsRecorded k past) := by
  intro j j' honward hj row hrow hsession
  have hold := hj row (honward.kept.rows row hrow hsession)
  rw [honward.kept.collate]
  exact hold.mono (append_subset_append honward.events) hsession

theorem lasting_executedIn (test : TestConfig) (result : Dto.TestResult) :
    Lasting k.id fun j => ExecutedIn (past ++ j.events) test result :=
  fun _ _ honward h => h.mono (append_subset_append honward.events)

/-- The journal with one more call. -/
def answeredJournal (op : Op) (a : Answer) (j : RunJournal) : RunJournal :=
  ⟨j.events ++ [⟨op, (handle op a j.state).1⟩], (handle op a j.state).2⟩

theorem onward_answered (op : Op) (hop : op.keepsResults) (a : Answer) (j : RunJournal) :
    Onward k.id j (answeredJournal op a j) :=
  ⟨List.prefix_append _ _, keepsSession_handle hop k.id a j.state⟩

theorem onward_of_rely {j j' : RunJournal} (h : (recordingSetting k past).rely j j') :
    Onward k.id j j' := ⟨h.1 ▸ List.prefix_refl _, h.2⟩

/-- An update of a row. -/
theorem RowUpdate.keeps (hp : RowUpdate p) (hlasting : Lasting k.id P) (hj : P j) :
    RequestKeeps k past (fun _ => P) p j :=
  Setting.Safe.of_uses P hp (fun hrely => hlasting (onward_of_rely hrely))
    (fun hop _ hj => have honward := onward_answered _ hop.keepsResults _ _
      ⟨fun hrecorded => lasting_rowsRecorded honward hrecorded, hlasting honward hj⟩) hj

theorem RequestKeeps.pure {a : α} (hlasting : Lasting k.id (post a)) (hpost : post a j) :
    RequestKeeps k past post (Pure.pure a) j :=
  Setting.Safe.pure fun _ hrely => hlasting (onward_of_rely hrely) hpost

theorem RequestKeeps.perform {op : Op} {post : Reply op → RunJournal → Prop}
    (hlasting : ∀ reply, Lasting k.id (post reply))
    (hkept : ∀ j', Onward k.id j j' → ∀ a, RowsRecorded k past j' →
      RowsRecorded k past (answeredJournal op a j'))
    (h : ∀ j', Onward k.id j j' → ∀ a, post (handle op a j'.state).1 (answeredJournal op a j')) :
    RequestKeeps k past post (Program.perform op) j :=
  Setting.Safe.perform fun j' hrely a _ =>
    ⟨hkept j' (onward_of_rely hrely) a, fun _ hrely' =>
      hlasting _ (onward_of_rely hrely') (h j' (onward_of_rely hrely) a)⟩

/-- A call that leaves the test results alone. -/
theorem RequestKeeps.call {op : Op} {post : Reply op → RunJournal → Prop}
    (hop : op.keepsResults) (hlasting : ∀ reply, Lasting k.id (post reply))
    (h : ∀ j', Onward k.id j j' → ∀ a, post (handle op a j'.state).1 (answeredJournal op a j')) :
    RequestKeeps k past post (Program.perform op) j :=
  RequestKeeps.perform hlasting
    (fun j' _ a hrecorded => lasting_rowsRecorded (onward_answered op hop a j') hrecorded) h

theorem RequestKeeps.bind {β : Type} {f : α → Task β} {mid : α → RunJournal → Prop}
    {post : β → RunJournal → Prop} (h : RequestKeeps k past mid p j)
    (hf : ∀ a j', mid a j' → RequestKeeps k past post (f a) j') :
    RequestKeeps k past post (p >>= f) j :=
  Setting.Safe.bind h hf

/-- **At any point of a run the rows are recorded.** -/
theorem RequestKeeps.recorded {q : Task α} {s s' : ThreadState} {before events : List (Event Reply)}
    (hrun : (requestSetting k.id).Run s p events s' q) (h : RequestKeeps k past post p ⟨before, s⟩)
    (hrecorded : RowsRecorded k past ⟨before, s⟩) :
    RequestKeeps k past post q ⟨before ++ events, s'⟩ ∧
      RowsRecorded k past ⟨before ++ events, s'⟩ := by
  induction hrun generalizing before with
  | stop s p =>
      rw [List.append_nil]
      exact ⟨h, hrecorded⟩
  | @others s s' s'' p q events first rest ih =>
      refine ih (h.rely ⟨rfl, first⟩) ?_
      have honward : Onward k.id ⟨before, s⟩ ⟨before, s'⟩ := ⟨List.prefix_refl _, first⟩
      exact lasting_rowsRecorded honward hrecorded
  | @call s s'' op next e events q ok rest ih =>
      obtain ⟨hkept, hnext⟩ := h ⟨before, s⟩ ⟨rfl, .of_eq rfl rfl⟩ e ok
      rw [List.append_cons]
      exact ih hnext (hkept hrecorded)

end Rules

/-! ## What a request stores -/

variable {k : SessionKey} {past : List (Event Reply)} {j : RunJournal}

/-- What happened has happened, whatever is called. -/
theorem RequestKeeps.happened {α : Type} {post : α → RunJournal → Prop} {p : Task α}
    {F : List (Event Reply) → Prop} (h : RequestKeeps k past post p j)
    (hF : ∀ events events', events <+: events' → F events → F events') (hj : F j.events) :
    RequestKeeps k past (fun a j => post a j ∧ F j.events) p j :=
  Setting.Safe.frame (F := fun j => F j.events) h
    (fun hrely hF' => hF _ _ (onward_of_rely hrely).events hF')
    (fun hF' => hF _ _ (List.prefix_append _ _) hF') hj

theorem executedIn_happened (test : TestConfig) (result : Dto.TestResult)
    (events events' : List (Event Reply)) (hlater : events <+: events')
    (h : ExecutedIn (past ++ events) test result) : ExecutedIn (past ++ events') test result :=
  h.mono (List.append_subset.2 ⟨List.subset_append_left _ _, fun _ he =>
    List.mem_append_right _ (hlater.subset he)⟩)

/-- **The row that a request writes is recorded**, also where it replaces one. -/
theorem recorded_upsert {db db' : Database} {persisted : Session} {test : TestConfig}
    {result : Dto.TestResult} {now clock : Time} {events : List (Event Reply)}
    (hrecorded : ∀ row ∈ db.testResults, Recorded db.collate k events row)
    (hkey : persisted.key = k) (hexecuted : ExecutedIn events test result) (htype : test.type ≠ "")
    (h : db.upsertTestResult (testResultRow persisted result now) clock
      (TestResult.rowKey db.collate) = .ok db') :
    ∀ row ∈ db'.testResults, Recorded db'.collate k events row := by
  have hname : result.name = test.name := by
    obtain ⟨scenarioId, run, -, rfl⟩ := hexecuted
    exact (requestResult_name scenarioId test run).1
  have hid : (testResultRow persisted result now).id = k.resultId test.name := by
    rw [← hkey, ← hname]
    rfl
  unfold Database.upsertTestResult at h
  split_ifs at h
  obtain rfl := Except.ok.inj h
  intro row hrow
  rcases Table.mem_upsert hrow with rfl | hold | ⟨old, hold, hsame, rfl⟩
  · refine fun _ => ⟨test, result, hexecuted, htype, congrArg db.collate hid, ?_, rfl, rfl⟩
    rw [hid, ← hname]
    rfl
  · exact hrecorded row hold
  · -- the old row keeps its name, of which the collation does not tell that of the test
    intro hsession
    obtain ⟨-, -, -, -, -, hown, -, -⟩ := hrecorded old hold hsession
    exact ⟨test, result, hexecuted, htype, hsame.trans (congrArg db.collate hid), hown, rfl, rfl⟩

namespace Handler

variable (h : Handler) {persisted : Session} {test : TestConfig} {result : Dto.TestResult}

/-- Storing the result of a test that was executed. -/
theorem keeps_persistTestResult (hkey : persisted.key = k) (htype : test.type ≠ "")
    (hj : RowsRecorded k past j ∧ ExecutedIn (past ++ j.events) test result) :
    RequestKeeps k past
      (fun _ j => RowsRecorded k past j ∧ ExecutedIn (past ++ j.events) test result)
      (persistTestResult persisted result) j := by
  have hlasting : Lasting k.id fun j =>
      RowsRecorded k past j ∧ ExecutedIn (past ++ j.events) test result :=
    fun _ _ honward hj =>
      ⟨lasting_rowsRecorded honward hj.1, lasting_executedIn test result honward hj.2⟩
  refine RequestKeeps.bind (RowUpdate.keeps (Uses.perform trivial) hlasting hj) fun now j hj => ?_
  -- the clock is read first, so the write may find what other sessions wrote meanwhile
  have hcall : RequestKeeps k past
      (fun _ j => RowsRecorded k past j ∧ ExecutedIn (past ++ j.events) test result)
      (Task.store false (.upsertTestResult (testResultRow persisted result now))) j := by
    have hlater (j' : RunJournal) (a : Answer) : past ++ j'.events ⊆ past ++ (answeredJournal
        (.store false (.upsertTestResult (testResultRow persisted result now))) a j').events :=
      append_subset_append (List.prefix_append _ _)
    have hkept (j' : RunJournal) (honward : Onward k.id j j') (a : Answer)
        (hrecorded : RowsRecorded k past j') : RowsRecorded k past (answeredJournal
          (.store false (.upsertTestResult (testResultRow persisted result now))) a j') := by
      have hexecuted := (hlasting honward hj).2
      refine fun row hrow => Recorded.mono ?_ (hlater j' a)
      revert row
      simp only [answeredJournal, handle]
      split_ifs
      · exact hrecorded
      · rcases Fault.apply_cases a.fault j'.state.db (StoreOp.run a.now j'.state.db
            (.upsertTestResult (testResultRow persisted result now))) with hsame | ⟨v, hrun⟩
        · show ∀ row ∈ (Fault.apply a.fault j'.state.db _).2.testResults, _
          rw [StoreOp.call, hsame]
          exact hrecorded
        · obtain ⟨db, hupsert, heq⟩ := Transaction.map_eq_ok.1 hrun
          have hafter := (Prod.mk.inj heq).2
          rw [StoreOp.call, ← hafter]
          exact recorded_upsert hrecorded hkey hexecuted htype hupsert
    refine RequestKeeps.perform (fun _ => hlasting) hkept fun j' honward a => ?_
    obtain ⟨hrecorded, hexecuted⟩ := hlasting honward hj
    exact ⟨hkept j' honward a hrecorded, hexecuted.mono (hlater j' a)⟩
  exact RequestKeeps.bind hcall fun _ j hj => RequestKeeps.pure hlasting hj

theorem keeps_storeProgress (index : Nat) (results : List Dto.TestResult)
    (hkey : persisted.key = k) (htype : test.type ≠ "")
    (hj : RowsRecorded k past j ∧ ExecutedIn (past ++ j.events) test result) :
    RequestKeeps k past
      (fun _ j => RowsRecorded k past j ∧ ExecutedIn (past ++ j.events) test result)
      (h.storeProgress persisted index results result) j := by
  have hlasting : Lasting k.id fun j =>
      RowsRecorded k past j ∧ ExecutedIn (past ++ j.events) test result :=
    fun _ _ honward hj =>
      ⟨lasting_rowsRecorded honward hj.1, lasting_executedIn test result honward hj.2⟩
  refine RequestKeeps.bind (keeps_persistTestResult hkey htype hj) fun _ j hj => ?_
  split_ifs
  · exact RowUpdate.keeps (h.rowUpdate_persistCheckpoint _ _ _ _ _ _) hlasting hj
  · exact RowUpdate.keeps (h.rowUpdate_persistCheckpoint _ _ _ _ _ _) hlasting hj

/-- The loop has run the tests without a stored result, each once. -/
def LoopDone (k : SessionKey) (past : List (Event Reply))
    (byName : List (String × Dto.TestResult)) (tests : List TestConfig)
    (results out : List Dto.TestResult) (j : RunJournal) : Prop :=
  RowsRecorded k past j ∧ ∃ new, out = results ++ new ∧
    List.Forall₂ (ExecutedIn (past ++ j.events)) (remainingTests byName tests) new

theorem lasting_loopDone (byName : List (String × Dto.TestResult)) (tests : List TestConfig)
    (results out : List Dto.TestResult) :
    Lasting k.id (LoopDone k past byName tests results out) := by
  rintro j j' honward ⟨hrecorded, new, rfl, hnew⟩
  exact ⟨lasting_rowsRecorded honward hrecorded, new, rfl,
    hnew.imp fun test result => lasting_executedIn test result honward⟩

/-- **The loop**: every test without a stored result is executed, and its result is stored. -/
theorem keeps_runTestLoop (scenarioId : String) {persisted : Option Session}
    (byName : List (String × Dto.TestResult)) {tests : List TestConfig}
    (hkey : ∀ p, persisted = some p → p.key = k) (htypes : ∀ test ∈ tests, test.type ≠ "")
    (index : Nat) (results : List Dto.TestResult) (hj : RowsRecorded k past j) :
    RequestKeeps k past (LoopDone k past byName tests results)
      (h.runTestLoop scenarioId persisted byName index tests results) j := by
  induction tests generalizing index results j with
  | nil => exact RequestKeeps.pure (lasting_loopDone _ _ _ _) ⟨hj, [], by simp, .nil⟩
  | cons test rest ih =>
      have hrest : ∀ test ∈ rest, test.type ≠ "" := fun t ht => htypes t (List.mem_cons_of_mem _ ht)
      rw [runTestLoop]
      split_ifs with hstored
      · refine (ih hrest (index + 1) results hj).mono fun out j hdone => ?_
        have hskip : remainingTests byName (test :: rest) = remainingTests byName rest :=
          List.filter_cons_of_neg (by simpa using Option.isSome_iff_ne_none.1 hstored)
        rw [LoopDone, hskip]
        exact hdone
      · have hrun : remainingTests byName (test :: rest) = test :: remainingTests byName rest :=
          List.filter_cons_of_pos (by simpa using Option.not_isSome_iff_eq_none.1 hstored)
        have hcall : RequestKeeps k past (fun run j => RowsRecorded k past j ∧
            ExecutedIn (past ++ j.events) test (requestResult scenarioId test run))
            (Program.perform (Op.runTest test)) j := by
          refine RequestKeeps.call trivial (fun run _ _ honward hj =>
            ⟨lasting_rowsRecorded honward hj.1, lasting_executedIn test _ honward hj.2⟩)
            fun j' honward a => ⟨?_, scenarioId, _, ?_, rfl⟩
          · exact lasting_rowsRecorded (onward_answered (.runTest test) trivial a j')
              (lasting_rowsRecorded honward hj)
          · exact List.mem_append_right _ (List.mem_append_right _ (List.mem_singleton_self _))
        -- the rest of the loop goes on from the results with the new one
        have hgo {result : Dto.TestResult} {j : RunJournal} (hj : RowsRecorded k past j ∧
            ExecutedIn (past ++ j.events) test result) :
            RequestKeeps k past (LoopDone k past byName (test :: rest) results)
              (h.runTestLoop scenarioId persisted byName (index + 1) rest (results ++ [result]))
              j := by
          refine ((ih hrest (index + 1) (results ++ [result]) hj.1).happened
            (executedIn_happened test result) hj.2).mono ?_
          rintro out j ⟨⟨hrecorded, new, rfl, hnew⟩, hexecuted⟩
          rw [LoopDone, hrun]
          exact ⟨hrecorded, result :: new, by simp, .cons hexecuted hnew⟩
        refine RequestKeeps.bind hcall fun run j hj => ?_
        cases persisted with
        | none => exact hgo hj
        | some p =>
            exact RequestKeeps.bind (h.keeps_storeProgress _ _ (hkey p rfl)
              (htypes test List.mem_cons_self) hj) fun _ j hj => hgo hj

end Handler

/-! ## The results of a plan -/

/-- Every test of the plan has one result, that of an execution. -/
def PlanExecuted (events : List (Event Reply)) (tests : List TestConfig)
    (results : List Dto.TestResult) : Prop :=
  ∃ order : List TestConfig, order.Perm tests ∧ List.Forall₂ (ExecutedIn events) order results

/-- In what was executed before, the names of a plan stand for its tests, as far as the collation
    tells them apart. -/
def NamesAgree (collate : String → String) (k : SessionKey) (past : List (Event Reply))
    (tests : List TestConfig) : Prop :=
  ∀ test ∈ tests, ∀ test', Started test' past →
    collate (k.resultId test'.name) = collate (k.resultId test.name) → test' = test

/-- There is a stored result for every test that the checkpoint skips. -/
def Covered (checkpointIndex : Int) (tests : List TestConfig) (events : List (Event Reply)) :
    Prop :=
  checkpointIndex ≤ 0 ∨ tests.length ≤ checkpointIndex ∨
    ¬ListFailed events ∧ ∀ rows, Listed rows events →
      ∀ test ∈ tests.take checkpointIndex.toNat, ∃ row ∈ rows, row.testName = test.name

/-- The stored results are those of executions in the past, or could not be listed. -/
def RestoredFrom (collate : String → String) (k : SessionKey) (past : List (Event Reply))
    (byName : List (String × Dto.TestResult)) (events : List (Event Reply)) : Prop :=
  byName = [] ∧ ListFailed events ∨
    ∃ rows, Listed rows events ∧
      (byName = rows.reverse.map fun row => (row.testName, restoreResult row)) ∧
      ∀ row ∈ rows, ∃ test, ServesRow collate k past row test

/-- The stored results of the tests that have one. -/
theorem forall₂_orderedResults_filter {events : List (Event Reply)}
    {byName : List (String × Dto.TestResult)} {tests : List TestConfig}
    (hstored : ∀ test ∈ tests, ∀ r, byName.lookup test.name = some r → ExecutedIn events test r) :
    List.Forall₂ (ExecutedIn events)
      (tests.filter fun test => (byName.lookup test.name).isSome)
      (orderedResults byName tests) := by
  induction tests with
  | nil => exact .nil
  | cons test rest ih =>
      have hrest := ih fun t ht => hstored t (List.mem_cons_of_mem _ ht)
      rw [orderedResults, List.filter_cons, List.filterMap_cons]
      cases hlookup : byName.lookup test.name with
      | none => exact hrest
      | some r => exact .cons (hstored test List.mem_cons_self r hlookup) hrest

/-- **Stored and new results make up the plan** when nothing is skipped without a result. -/
theorem planExecuted {events : List (Event Reply)} {byName : List (String × Dto.TestResult)}
    {tests : List TestConfig} {index : Nat} {new : List Dto.TestResult}
    (hstored : ∀ test ∈ tests, ∀ r, byName.lookup test.name = some r → ExecutedIn events test r)
    (hskipped : ∀ test ∈ tests.take index, (byName.lookup test.name).isSome = true)
    (hnew : List.Forall₂ (ExecutedIn events) (remainingTests byName (tests.drop index)) new) :
    PlanExecuted events tests (orderedResults byName tests ++ new) := by
  have hnone : remainingTests byName (tests.take index) = [] := by
    refine List.filter_eq_nil_iff.2 fun test htest => ?_
    rw [Option.isNone_eq_false_iff.2 (hskipped test htest)]
    exact Bool.false_ne_true
  have hremaining : remainingTests byName tests = remainingTests byName (tests.drop index) := by
    conv_lhs => rw [← List.take_append_drop index tests]
    rw [remainingTests, List.filter_append]
    exact (congrArg (· ++ _) hnone).trans (List.nil_append _)
  refine ⟨(tests.filter fun test => (byName.lookup test.name).isSome) ++
    remainingTests byName tests, ?_, ?_⟩
  · have hperm := List.filter_append_perm (fun test => (byName.lookup test.name).isSome) tests
    simpa [remainingTests, Option.not_isSome] using hperm
  · rw [hremaining]
    exact List.rel_append (forall₂_orderedResults_filter hstored) hnew

theorem PlanExecuted.mono {events events' : List (Event Reply)} {tests : List TestConfig}
    {results : List Dto.TestResult} (h : PlanExecuted events tests results)
    (hsub : events ⊆ events') : PlanExecuted events' tests results := by
  obtain ⟨order, hperm, hresults⟩ := h
  exact ⟨order, hperm, hresults.imp fun _ _ hexecuted => hexecuted.mono hsub⟩

theorem Covered.anti {checkpointIndex : Int} {tests : List TestConfig}
    {events events' : List (Event Reply)} (h : Covered checkpointIndex tests events')
    (hsub : events ⊆ events') : Covered checkpointIndex tests events := by
  rcases h with hle | hge | ⟨hlisted, hrows⟩
  · exact .inl hle
  · exact .inr (.inl hge)
  · refine .inr (.inr ⟨?_, ?_⟩)
    · rintro ⟨detached, id, e, hfailed⟩
      exact hlisted ⟨detached, id, e, hsub hfailed⟩
    · rintro rows ⟨detached, id, hlist⟩
      exact hrows rows ⟨detached, id, hsub hlist⟩

theorem lookup_rows_isSome {rows : List TestResult} {row : TestResult} (hrow : row ∈ rows) :
    ((rows.reverse.map fun row => (row.testName, restoreResult row)).lookup row.testName).isSome
      = true := by
  refine lookup_isSome _ _ ?_
  rw [List.map_map]
  exact List.mem_map.2 ⟨row, List.mem_reverse.2 hrow, rfl⟩

theorem RestoredFrom.planExecuted {collate : String → String} {events : List (Event Reply)}
    {byName : List (String × Dto.TestResult)} {tests : List TestConfig} {checkpointIndex : Int}
    {new : List Dto.TestResult} (h : RestoredFrom collate k past byName events)
    (hnames : NamesAgree collate k past tests)
    (hcovered : Covered checkpointIndex tests events)
    (hnew : List.Forall₂ (ExecutedIn (past ++ events))
      (remainingTests byName (tests.drop (startIndex checkpointIndex tests))) new) :
    PlanExecuted (past ++ events) tests (orderedResults byName tests ++ new) := by
  refine TokyoTester.planExecuted ?_ ?_ hnew
  · intro test htest r hr
    rcases h with ⟨rfl, -⟩ | ⟨rows, -, rfl, hrows⟩
    · cases hr
    · obtain ⟨row, hrow, heq⟩ := List.mem_map.1 (lookup_mem hr)
      obtain ⟨hname, rfl⟩ := Prod.mk.inj heq
      obtain ⟨test', hstarted, hsame, hexecuted⟩ := hrows row (List.mem_reverse.1 hrow)
      rw [hname] at hsame
      obtain rfl := hnames test htest test' hstarted hsame
      exact (hexecuted hname).mono (List.subset_append_left _ _)
  · intro test htest
    unfold startIndex at htest
    split_ifs at htest with hinside
    · rcases hcovered with hle | hge | ⟨hlisted, hrows⟩
      · omega
      · omega
      · rcases h with ⟨-, hfailed⟩ | ⟨rows, hlist, rfl, -⟩
        · exact absurd hfailed hlisted
        · obtain ⟨row, hrow, hname⟩ := hrows rows hlist test htest
          rw [← hname]
          exact lookup_rows_isSome hrow
    · simp at htest

theorem happened_restoredFrom {collate : String → String}
    (byName : List (String × Dto.TestResult))
    (events events' : List (Event Reply)) (hlater : events <+: events')
    (h : RestoredFrom collate k past byName events) :
    RestoredFrom collate k past byName events' := by
  rcases h with ⟨rfl, detached, id, e, hfailed⟩ | ⟨rows, ⟨detached, id, hlist⟩, heq, hrows⟩
  · exact .inl ⟨rfl, detached, id, e, hlater.subset hfailed⟩
  · exact .inr ⟨rows, ⟨detached, id, hlater.subset hlist⟩, heq, hrows⟩

/-! ## A request -/

theorem toConfigList_ne_nil {request : RunTestRequest} (hvalid : request.validate = true) :
    request.toConfigList ≠ [] := by
  intro hnil
  have htests : request.tests = [] := List.map_eq_nil_iff.1 hnil
  simp [RunTestRequest.validate, htests] at hvalid

/-- The tests of a request have a type. -/
theorem toConfigList_type {request : RunTestRequest} (hvalid : request.validate = true) :
    ∀ test ∈ request.toConfigList, test.type ≠ "" := by
  intro test htest htype
  obtain ⟨t, ht, rfl⟩ := List.mem_map.1 htest
  have hempty : t.type = "" := htype
  have htest := List.all_eq_true.1 (Bool.and_eq_true_iff.1 hvalid).2 t ht
  simp [TestDto.validate, hempty] at htest

/-- Before its first test, a request has the stored results of the past. -/
structure PastRecorded (collate : String → String) (k : SessionKey) (past : List (Event Reply))
    (j : RunJournal) : Prop where
  collated : j.state.db.collate = collate
  rows : ∀ row ∈ j.state.db.testResults, Recorded collate k past row

theorem lasting_pastRecorded {collate : String → String} :
    Lasting k.id (PastRecorded collate k past) := fun _ _ honward hj =>
  ⟨honward.kept.collate.trans hj.collated, fun row hrow hsession =>
    hj.rows row (honward.kept.rows row hrow hsession) hsession⟩

theorem PastRecorded.rowsRecorded {collate : String → String} (h : PastRecorded collate k past j) :
    RowsRecorded k past j :=
  fun row hrow => h.collated ▸ (h.rows row hrow).mono (List.subset_append_left _ _)

namespace Handler

variable (h : Handler)

theorem handle_listTestResults {detached : Bool} {id : String} {a : Answer} {s : ThreadState}
    {rows : List TestResult}
    (h : (handle (.store detached (.listTestResults id)) a s).1 = .ok rows) :
    rows = s.db.listTestResults id := by
  simp only [handle] at h
  split_ifs at h
  cases hfault : a.fault with
  | none =>
      simp only [StoreOp.call, Fault.apply, hfault, StoreOp.run] at h
      exact (Except.ok.inj h).symm
  | refused message => simp [StoreOp.call, Fault.apply, hfault] at h
  | lost message => simp [StoreOp.call, Fault.apply, hfault, StoreOp.run] at h

/-- The rows that are listed are those of the session. -/
theorem keeps_loadPersistedResults {collate : String → String} {persisted : Session}
    (hkey : persisted.key = k) (hj : PastRecorded collate k past j) :
    RequestKeeps k past (fun loaded j => PastRecorded collate k past j ∧
        (∀ byName, loaded = .ok byName → RestoredFrom collate k past byName j.events) ∧
        ∀ e, loaded = .error e → RestoredFrom collate k past [] j.events)
      (loadPersistedResults (some persisted)) j := by
  have hpost (loaded : Except String (List (String × Dto.TestResult))) : Lasting k.id fun j =>
      PastRecorded collate k past j ∧
        (∀ byName, loaded = .ok byName → RestoredFrom collate k past byName j.events) ∧
        ∀ e, loaded = .error e → RestoredFrom collate k past [] j.events :=
    fun _ _ honward hj => ⟨lasting_pastRecorded honward hj.1,
      fun byName hok => happened_restoredFrom _ _ _ honward.events (hj.2.1 byName hok),
      fun e he => happened_restoredFrom _ _ _ honward.events (hj.2.2 e he)⟩
  -- the rows listed are rows of the session, and each serves the test of its name
  have hcall : RequestKeeps k past (fun reply j => PastRecorded collate k past j ∧
        (∀ rows, reply = .ok rows → RestoredFrom collate k past
          (rows.reverse.map fun row => (row.testName, restoreResult row)) j.events) ∧
        ∀ e, reply = .error e → RestoredFrom collate k past [] j.events)
      (Task.store false (.listTestResults persisted.id)) j := by
    refine RequestKeeps.call trivial
      (fun reply _ _ honward hj => ⟨lasting_pastRecorded honward hj.1,
      fun rows hok => happened_restoredFrom _ _ _ honward.events (hj.2.1 rows hok),
      fun e he => happened_restoredFrom _ _ _ honward.events (hj.2.2 e he)⟩)
      fun j' honward a => ⟨?_, ?_, ?_⟩
    · exact lasting_pastRecorded
        (onward_answered (.store false (.listTestResults persisted.id)) trivial a j')
        (lasting_pastRecorded honward hj)
    · intro rows hrows
      refine .inr ⟨rows, ⟨false, persisted.id, List.mem_append_right _
        (List.mem_singleton.2 (by rw [← hrows]))⟩, rfl, ?_⟩
      intro row hrow
      rw [handle_listTestResults hrows] at hrow
      obtain ⟨hrow, hsession⟩ := List.mem_filter.1 hrow
      exact ((lasting_pastRecorded honward hj).rows row hrow).serves
        ((of_decide_eq_true (Bool.and_eq_true_iff.1 hsession).1).trans
          (congrArg SessionKey.id hkey))
    · intro e he
      exact .inl ⟨rfl, false, persisted.id, e, List.mem_append_right _
        (List.mem_singleton.2 (by rw [← he]))⟩
  refine RequestKeeps.bind hcall fun reply j hreply => ?_
  cases reply with
  | error e => exact RequestKeeps.pure (hpost _) ⟨hreply.1, by simp, fun _ _ => hreply.2.2 e rfl⟩
  | ok rows =>
      refine RequestKeeps.pure (hpost _) ⟨hreply.1, ?_, by simp⟩
      rintro byName heq
      exact Except.ok.inj heq ▸ hreply.2.1 rows rfl

theorem rowUpdate_finishTests (persisted : Option Session) (tests : List TestConfig)
    (results : List Dto.TestResult) : RowUpdate (h.finishTests persisted tests results) := by
  cases persisted with
  | none => exact Uses.pure _
  | some p =>
      exact Uses.bind (h.rowUpdate_persistCheckpoint _ _ _ _ _ _) fun _ =>
        rowUpdate_releaseSessionLease _ _

/-- The results are those of the plan, under the conditions for that. -/
def Answered (collate : String → String) (k : SessionKey) (past : List (Event Reply))
    (checkpointIndex : Int) (tests : List TestConfig) (results : List Dto.TestResult)
    (j : RunJournal) : Prop :=
  RowsRecorded k past j ∧ (NamesAgree collate k past tests →
    Covered checkpointIndex tests j.events → PlanExecuted (past ++ j.events) tests results)

section Answered

variable {collate : String → String}

theorem lasting_answered (checkpointIndex : Int) (tests : List TestConfig)
    (results : List Dto.TestResult) :
    Lasting k.id (Answered collate k past checkpointIndex tests results) := by
  rintro j j' honward ⟨hrecorded, hplan⟩
  refine ⟨lasting_rowsRecorded honward hrecorded, fun hnames hcovered => ?_⟩
  exact (hplan hnames (hcovered.anti honward.events.subset)).mono
    (append_subset_append honward.events)

/-- The tests are run, from what was restored on. -/
theorem keeps_runTests (request : RunTestRequest) {persisted : Option Session}
    {tests : List TestConfig} (hkey : ∀ p, persisted = some p → p.key = k)
    (htypes : ∀ test ∈ tests, test.type ≠ "") {checkpointIndex : Int}
    {byName : List (String × Dto.TestResult)} (hj : RowsRecorded k past j)
    (hrestored : persisted = none ∧ checkpointIndex = 0 ∧ byName = [] ∨
      RestoredFrom collate k past byName j.events) :
    RequestKeeps k past (fun response j => ∃ results summary, response = .results results summary ∧
        Answered collate k past checkpointIndex tests results j)
      (do
        let results ← h.runTestLoop request.executionContext.scenarioId persisted byName
          (startIndex checkpointIndex tests) (tests.drop (startIndex checkpointIndex tests))
          (orderedResults byName tests)
        h.finishTests persisted tests results
        pure (RunTestsResponse.results results (requestSummary request results))) j := by
  have htail : ∀ test ∈ tests.drop (startIndex checkpointIndex tests), test.type ≠ "" :=
    fun test htest => htypes test (List.mem_of_mem_drop htest)
  have hloop := (h.keeps_runTestLoop request.executionContext.scenarioId byName hkey htail
    (startIndex checkpointIndex tests) (orderedResults byName tests) hj).happened
    (F := fun events => persisted = none ∧ checkpointIndex = 0 ∧ byName = [] ∨
      RestoredFrom collate k past byName events)
    (fun _ _ hlater hF => hF.imp id (happened_restoredFrom byName _ _ hlater)) hrestored
  refine RequestKeeps.bind hloop fun results j hdone => ?_
  have hanswered : Answered collate k past checkpointIndex tests results j := by
    obtain ⟨⟨hrecorded, new, rfl, hnew⟩, hrestored⟩ := hdone
    refine ⟨hrecorded, fun hnames hcovered => ?_⟩
    rcases hrestored with ⟨-, rfl, rfl⟩ | hrestored
    · exact planExecuted (by simp) (by simp [startIndex]) hnew
    · exact hrestored.planExecuted hnames hcovered hnew
  refine RequestKeeps.bind (RowUpdate.keeps (h.rowUpdate_finishTests _ _ _)
    (lasting_answered checkpointIndex tests results) hanswered) fun _ j hanswered => ?_
  refine RequestKeeps.pure ?_ ⟨results, _, rfl, hanswered⟩
  rintro j j' honward ⟨results', summary, heq, hanswered⟩
  exact ⟨results', summary, heq, lasting_answered _ _ _ honward hanswered⟩

/-- A request that runs its tests. -/
theorem keeps_runTestsFrom (request : RunTestRequest) {persisted : Option Session}
    {tests : List TestConfig} (hkey : ∀ p, persisted = some p → p.key = k)
    (htypes : ∀ test ∈ tests, test.type ≠ "") (hj : PastRecorded collate k past j) :
    RequestKeeps k past (fun response j => ∃ results summary, response = .results results summary ∧
        Answered collate k past ((persisted.map (·.checkpointIndex)).getD 0) tests results j)
      (h.runTestsFrom request persisted tests) j := by
  cases persisted with
  | none => exact h.keeps_runTests request hkey htypes hj.rowsRecorded (.inl ⟨rfl, rfl, rfl⟩)
  | some p =>
      refine RequestKeeps.bind (keeps_loadPersistedResults (hkey p rfl) hj)
        fun loaded j hloaded => ?_
      cases loaded with
      | error e =>
          exact h.keeps_runTests request hkey htypes hloaded.1.rowsRecorded
            (.inr (hloaded.2.2 e rfl))
      | ok byName =>
          exact h.keeps_runTests request hkey htypes hloaded.1.rowsRecorded
            (.inr (hloaded.2.1 byName rfl))

/-- **A request on a session**: with results it has executed its plan. -/
theorem keeps_runTestsOn {request : RunTestRequest} (hvalid : request.validate = true)
    {persisted : Option Session} (hkey : ∀ p, persisted = some p → p.key = k)
    (hj : PastRecorded collate k past j) :
    RequestKeeps k past (fun response j => ∀ results summary, response = .results results summary →
        Answered collate k past ((persisted.map (·.checkpointIndex)).getD 0) request.toConfigList
          results j)
      (h.runTestsOn request persisted) j := by
  have htypes := toConfigList_type hvalid
  have hpost {checkpointIndex : Int} {response : RunTestsResponse} {j : RunJournal}
      (hresponse : ∃ results summary, response = .results results summary ∧
        Answered collate k past checkpointIndex request.toConfigList results j) :
      ∀ results summary, response = .results results summary →
        Answered collate k past checkpointIndex request.toConfigList results j := by
    obtain ⟨results, summary, rfl, hanswered⟩ := hresponse
    rintro results' summary' heq
    exact (RunTestsResponse.results.inj heq).1 ▸ hanswered
  have hrefused {checkpointIndex : Int} (message : String) {j : RunJournal} :
      RequestKeeps k past (fun (response : RunTestsResponse) j => ∀ results summary,
          response = .results results summary →
            Answered collate k past checkpointIndex request.toConfigList results j)
        (pure (.badRequest message)) j :=
    RequestKeeps.pure (fun _ _ _ _ _ _ heq => by cases heq) fun _ _ heq => by cases heq
  cases persisted with
  | none => exact (h.keeps_runTestsFrom request hkey htypes hj).mono fun _ _ => hpost
  | some p =>
      have hplan : mergePersistedPlan request.toConfigList p.testPlan = some request.toConfigList :=
        if_pos (toConfigList_ne_nil hvalid)
      rw [runTestsOn, hplan]
      refine RequestKeeps.bind (RowUpdate.keeps (h.rowUpdate_ensureTestPlan _ _)
        lasting_pastRecorded hj) fun _ j hj => ?_
      cases rejectUnsafeResume request.toConfigList p.checkpointIndex with
      | error e => exact hrefused e
      | ok _ => exact (h.keeps_runTestsFrom request hkey htypes hj).mono fun _ _ => hpost

end Answered

end Handler

/-! ## The lookup of the session -/

namespace Handler

variable (h : Handler)

/-- A program that leaves the test results alone. -/
abbrev KeepsResults {α : Type} (p : Task α) : Prop := p.Uses Op.keepsResults

theorem keepsResults_of_rowUpdate {α : Type} {p : Task α} (hp : RowUpdate p) : KeepsResults p :=
  hp.mono fun _ hop => hop.keepsResults

theorem keepsResults_resolvePersistedSession (backendSessionId : String)
    (execution : ExecutionContext) :
    KeepsResults (resolvePersistedSession backendSessionId execution) := by
  have hexecution : KeepsResults (resolveByExecution execution) := by
    unfold resolveByExecution
    split_ifs
    · exact Uses.pure _
    · refine Uses.bind (Uses.perform trivial) fun read => ?_
      cases read with
      | ok session => exact Uses.pure _
      | error e => exact Uses.pure _
  have hsession : KeepsResults (resolveBySession execution) := by
    unfold resolveBySession
    split_ifs
    · exact hexecution
    · refine Uses.bind (Uses.perform trivial) fun read => ?_
      cases read with
      | ok session => exact Uses.pure _
      | error e => exact hexecution
  unfold resolvePersistedSession
  split_ifs
  · exact hsession
  · refine Uses.bind (Uses.perform trivial) fun read => ?_
    cases read with
    | ok session => exact Uses.pure _
    | error e => exact hsession

theorem rowUpdate_ensureSessionLease (persisted : Option Session) :
    RowUpdate (h.ensureSessionLease persisted) := by
  cases persisted with
  | none => exact Uses.pure _
  | some p =>
      refine Uses.bind (Uses.perform trivial) fun now => ?_
      split_ifs
      · exact Uses.pure _
      · refine rowUpdate_updatePersistedSession _ _ fun current => ?_
        unfold takeLease
        split
        · exact Uses.pure _
        · exact Uses.pure _

/-- Looking up or recovering a session leaves the test results alone. -/
theorem keepsResults_getOrRecoverSession (active : Option String) (backendSessionId : String)
    (execution : ExecutionContext) :
    KeepsResults (h.getOrRecoverSession active backendSessionId execution) := by
  have hlease (persisted : Session) {next : Except String (Option Session) → Task RecoveredSession}
      (hnext : ∀ leased, KeepsResults (next leased)) :
      KeepsResults (h.ensureSessionLease (some persisted) >>= next) :=
    Uses.bind (keepsResults_of_rowUpdate (h.rowUpdate_ensureSessionLease _)) hnext
  cases active with
  | none =>
      refine Uses.bind (keepsResults_resolvePersistedSession _ _) fun found => ?_
      cases found with
      | none => exact Uses.pure _
      | some persisted =>
      refine hlease persisted fun leased => ?_
      rcases leased with e | _ | persisted
      · exact Uses.pure _
      · exact Uses.pure _
      · show KeepsResults (h.reprovision persisted)
        unfold reprovision
        split_ifs
        · exact Uses.pure _
        · cases (Codec.slice ServiceConfig.codec).unmarshal persisted.serviceGraph with
          | none => exact Uses.pure _
          | some services =>
              refine Uses.bind (Uses.perform trivial) fun provisioned => ?_
              rcases provisioned with ⟨activities, e | runtime⟩
              · exact Uses.bind (keepsResults_of_rowUpdate (rowUpdate_persistSessionFailure _ _ _))
                  fun _ => Uses.pure _
              · exact Uses.bind
                  (keepsResults_of_rowUpdate (h.rowUpdate_persistProvisionedState _ _))
                  fun _ => Uses.pure _
  | some persistedId =>
      rw [getOrRecoverSession]
      split_ifs
      · exact Uses.pure _
      · refine Uses.bind (Uses.perform trivial) fun read => ?_
        cases read with
        | error e => exact Uses.pure _
        | ok persisted =>
            refine hlease persisted fun leased => ?_
            cases leased with
            | error e => exact Uses.pure _
            | ok persisted => exact Uses.pure _

theorem getOrRecoverSession_keepsSession {id : String} {active : Option String}
    {sessionId : String} {execution : ExecutionContext} {s t : ThreadState}
    {events : List (Event Reply)} {rest : Task RecoveredSession}
    (hfound : (requestSetting id).Run s (h.getOrRecoverSession active sessionId execution) events t
      rest) : KeepsSession id s.db t.db :=
  hfound.keeps (I := fun t => KeepsSession id s.db t.db)
    (h.keepsResults_getOrRecoverSession active sessionId execution)
    (fun (hrely : KeepsSession id _ _) hI => hI.trans hrely) (fun hop hI => hI.trans (keepsSession_handle hop _ _ _))
    (.of_eq rfl rfl)

/-- **A request with results** has found its session, left the test results alone until then, and
    run its tests on the session. -/
theorem runTests_results {id : String} {granted : Bool} {active : Option String} {sessionId : String}
    {request : RunTestRequest} {s s' : ThreadState} {events : List (Event Reply)}
    {results : List Dto.TestResult} {summary : Dto.TestSummary}
    (hrun : (requestSetting id).Run s (h.runTests granted active sessionId request) events s'
      (.done (.results results summary))) :
    request.validate = true ∧ ∃ before t after persisted, events = before ++ after ∧
      (requestSetting id).Run s
        (h.getOrRecoverSession active sessionId request.executionContext) before t
        (.done (.session persisted)) ∧
      KeepsSession id s.db t.db ∧
      (requestSetting id).Run t (h.runTestsOn request persisted) after s'
        (.done (.results results summary)) := by
  unfold runTests at hrun
  split_ifs at hrun with hgranted hvalid
  · cases hrun.of_done.2
  · cases hrun.of_done.2
  cases hpolicies : request.tests.forM TestDto.validateRetryPolicy with
  | error e =>
      rw [hpolicies] at hrun
      cases hrun.of_done.2
  | ok _ =>
      rw [hpolicies] at hrun
      obtain ⟨found, before, t, after, rfl, hfound, hrest⟩ := Setting.Run.of_bind hrun
      have hkept := h.getOrRecoverSession_keepsSession hfound
      cases found with
      | failed e => cases hrest.of_done.2
      | crashed => cases hrest.of_done.2
      | session persisted =>
          exact ⟨by simpa using hvalid, before, t, after, persisted, rfl, hfound, hkept, hrest⟩

end Handler

/-! ## Requests on a session -/

/-- Requests on a session, one after another, with the calls they made once the session was found;
    finding it leaves the session's results alone (`runTests_results`), as others do. A request may
    end early, with the runner. -/
inductive Requests (h : Handler) (k : SessionKey) : List (Event Reply) → Database → Prop where
  | start {db : Database} (hempty : ∀ row ∈ db.testResults, row.sessionId ≠ k.id) :
      Requests h k [] db
  | others {past : List (Event Reply)} {db db' : Database} (earlier : Requests h k past db)
      (hkept : KeepsSession k.id db db') : Requests h k past db'
  | request {past events : List (Event Reply)} {s s' : ThreadState}
      {request : RunTestRequest} {persisted : Option Session} {rest : Task RunTestsResponse}
      (earlier : Requests h k past s.db)
      (hkey : ∀ p, persisted = some p → p.key = k) (hvalid : request.validate = true)
      (hrun : (requestSetting k.id).Run s (h.runTestsOn request persisted) events s' rest) :
      Requests h k (past ++ events) s'.db

/-- **The stored results of a session come from executions in it.** -/
theorem Requests.recorded {h : Handler} {db : Database} (hpast : Requests h k past db) :
    ∀ row ∈ db.testResults, Recorded db.collate k past row := by
  induction hpast with
  | start hempty => exact fun row hrow hsession => absurd hsession (hempty row hrow)
  | others earlier hkept ih =>
      intro row hrow hsession
      rw [hkept.collate]
      exact ih row (hkept.rows row hrow hsession) hsession
  | @request past events s s' request persisted rest earlier hkey hvalid hrun ih =>
      have hbefore : PastRecorded s.db.collate k past ⟨[], s⟩ := ⟨rfl, ih⟩
      exact (RequestKeeps.recorded hrun (h.keeps_runTestsOn hvalid hkey hbefore)
        hbefore.rowsRecorded).2

/-- **A request executes its plan**: after any requests on the session, every test of its plan has
    exactly one result, which comes from an execution of the test in the session, when the names of
    the plan stand for its tests, also for the collation, and the checkpoint skips only tests with a
    stored result. -/
theorem request_executes_plan (h : Handler) (k : SessionKey)
    (past before events : List (Event Reply)) (s t s' : ThreadState) (active : Option String)
    (sessionId : String) (request : RunTestRequest)
    (persisted : Option Session) (results : List Dto.TestResult) (summary : Dto.TestSummary)
    (hpast : Requests h k past s.db) (hvalid : request.validate = true)
    (hfound : (requestSetting k.id).Run s
      (h.getOrRecoverSession active sessionId request.executionContext) before t
      (.done (.session persisted)))
    (hkey : ∀ p, persisted = some p → p.key = k)
    (hrun : (requestSetting k.id).Run t (h.runTestsOn request persisted) events s'
      (.done (.results results summary)))
    (hnames : NamesAgree s.db.collate k past request.toConfigList)
    (hcovered : ∀ p, persisted = some p → Covered p.checkpointIndex request.toConfigList events) :
    PlanExecuted (past ++ events) request.toConfigList results := by
  have hbefore : PastRecorded s.db.collate k past ⟨[], t⟩ :=
    lasting_pastRecorded (j := ⟨[], s⟩)
      ⟨List.prefix_refl _, h.getOrRecoverSession_keepsSession hfound⟩ ⟨rfl, hpast.recorded⟩
  have hanswered := ((RequestKeeps.recorded hrun (h.keeps_runTestsOn hvalid hkey hbefore)
    hbefore.rowsRecorded).1 _ ⟨rfl, .of_eq rfl rfl⟩) results summary rfl
  refine hanswered.2 hnames ?_
  cases persisted with
  | none => exact .inl (le_refl 0)
  | some p => exact hcovered p rfl

/-! ## A checkpoint of another plan -/

def pause (name : String) : TestDto := { name, type := "delay", config := some .empty }

/-- A request with pauses of these names. -/
def pauses (names : List String) : RunTestRequest where
  tests := names.map pause

def pausesOn (names : List String) (persisted : Option Session) : Task RunTestsResponse :=
  ({} : Handler).runTestsOn (pauses names) persisted

/-- The session after a first request with one pause. -/
def afterFirstRequest : ThreadState :=
  (((pausesOn ["first"] (some plainSession)).run handle (passingAnswers none 60)
    ⟨plainDatabase, .live, none⟩).map Prod.snd).getD default

def firstRequestCalls : List (Event Reply) :=
  (pausesOn ["first"] (some plainSession)).events handle (passingAnswers none 60)
    ⟨plainDatabase, .live, none⟩

/-- The tests that were started. -/
def startedTests (events : List (Event Reply)) : List TestConfig :=
  events.filterMap fun event =>
    match event.1 with
    | .runTest test => some test
    | _ => none

theorem Started.mem {test : TestConfig} {events : List (Event Reply)} (h : Started test events) :
    test ∈ startedTests events := by
  obtain ⟨run, hrun⟩ := h
  exact List.mem_filterMap.2 ⟨_, hrun, rfl⟩

theorem startedTests_firstRequest :
    startedTests firstRequestCalls = (pauses ["first"]).toConfigList := by
  with_unfolding_all rfl

theorem append_left_cancel {a b c : String} (h : a ++ b = a ++ c) : b = c := by
  have hlist := congrArg String.toList h
  rw [String.toList_append, String.toList_append] at hlist
  exact String.toList_inj.1 (List.append_cancel_left hlist)

theorem SessionKey.resultId_injective (k : SessionKey) {name name' : String}
    (h : k.resultId name = k.resultId name') : name = name' := by
  unfold SessionKey.resultId at h
  split_ifs at h
  · exact append_left_cancel h
  · exact append_left_cancel h

theorem collate_afterFirstRequest : afterFirstRequest.db.collate = id := by
  with_unfolding_all rfl

/-- In the first request, a name stands for one pause. -/
theorem namesAgree_pauses (names : List String) :
    NamesAgree afterFirstRequest.db.collate plainSession.key firstRequestCalls
      (pauses names).toConfigList := by
  intro test htest test' hstarted hname
  rw [collate_afterFirstRequest] at hname
  have hname : test'.name = test.name := SessionKey.resultId_injective _ hname
  obtain ⟨dto, hdto, rfl⟩ := List.mem_map.1 htest
  obtain ⟨name, -, rfl⟩ := List.mem_map.1 hdto
  have hfirst := hstarted.mem
  rw [startedTests_firstRequest] at hfirst
  obtain rfl : test' = (pause "first").toConfig := List.mem_singleton.1 hfirst
  obtain rfl : "first" = name := hname
  rfl

/-- The names in the lists of stored results that were read. -/
def listedNames (events : List (Event Reply)) : List (Option (List String)) :=
  events.filterMap fun
    | ⟨.store _ (.listTestResults _), .ok rows⟩ => some (some (rows.map (·.testName)))
    | ⟨.store _ (.listTestResults _), .error _⟩ => some none
    | _ => none

theorem covered_of_listedNames {checkpointIndex : Int} {tests : List TestConfig}
    {events : List (Event Reply)} (h : ∀ listed ∈ listedNames events, ∃ names,
      listed = some names ∧ ∀ test ∈ tests.take checkpointIndex.toNat, test.name ∈ names) :
    Covered checkpointIndex tests events := by
  refine .inr (.inr ⟨?_, ?_⟩)
  · rintro ⟨detached, id, e, hfailed⟩
    obtain ⟨names, hnone, -⟩ := h none (List.mem_filterMap.2 ⟨_, hfailed, rfl⟩)
    cases hnone
  · rintro rows ⟨detached, id, hlist⟩ test htest
    obtain ⟨names, hsome, hnames⟩ := h _ (List.mem_filterMap.2 ⟨_, hlist, rfl⟩)
    obtain rfl := Option.some.inj hsome
    exact List.mem_map.1 (hnames test htest)

/-- The results of a request. -/
def answeredResults : RunTestsResponse → Option (List Dto.TestResult)
  | .results results _ => some results
  | _ => none

/-- A further request on the session, with the session that it finds and the calls on it. -/
def nextRequest (names : List String) :
    Option (Session × List Dto.TestResult × List (Event Reply)) :=
  (({} : Handler).getOrRecoverSession (some plainSession.id) "backend" {}).run handle
    (passingAnswers none 60) afterFirstRequest |>.bind fun found =>
      (recoveredRow found.1).bind fun persisted =>
        ((pausesOn names (some persisted)).run handle (passingAnswers none 60) found.2).bind
          fun answered => (answeredResults answered.1).map fun results =>
            (persisted, results,
              (pausesOn names (some persisted)).events handle (passingAnswers none 60) found.2)

/-- The first request ran on the session alone. -/
theorem requests_first : Requests {} plainSession.key firstRequestCalls afterFirstRequest.db := by
  have hruns : ((pausesOn ["first"] (some plainSession)).run handle (passingAnswers none 60)
      ⟨plainDatabase, .live, none⟩).isSome = true := by decide +kernel
  obtain ⟨⟨response, s'⟩, hr⟩ := Option.isSome_iff_exists.1 hruns
  have hafter : afterFirstRequest = s' := by
    rw [afterFirstRequest, hr]
    rfl
  have hrun := Setting.Run.of_run (S := requestSetting plainSession.key.id) (fun _ _ _ => trivial)
    hr
  rw [hafter]
  have hstart : Requests {} plainSession.key [] plainDatabase := .start (by simp [plainDatabase])
  exact hstart.request (s := ⟨plainDatabase, .live, none⟩) (by simp) (by decide) hrun

theorem exists_nextRequest {names : List String} {persisted : Session}
    {results : List Dto.TestResult} {events : List (Event Reply)}
    (h : nextRequest names = some (persisted, results, events)) :
    ∃ before t s' summary,
      (requestSetting plainSession.key.id).Run afterFirstRequest
        (({} : Handler).getOrRecoverSession (some plainSession.id) "backend"
          (pauses names).executionContext) before t (.done (.session (some persisted))) ∧
      (requestSetting plainSession.key.id).Run t
        (({} : Handler).runTestsOn (pauses names) (some persisted)) events s'
        (.done (.results results summary)) := by
  obtain ⟨⟨recovered, t⟩, hfound, h⟩ := Option.bind_eq_some_iff.1 h
  obtain ⟨row, hrow, h⟩ := Option.bind_eq_some_iff.1 h
  obtain ⟨⟨response, s'⟩, hr, h⟩ := Option.bind_eq_some_iff.1 h
  obtain ⟨answered, hanswered, h⟩ := Option.map_eq_some_iff.1 h
  obtain ⟨rfl, rfl, rfl⟩ := by simpa using h
  obtain rfl := eq_of_recoveredRow hrow
  cases response with
  | results _ summary =>
      obtain rfl := Option.some.inj hanswered
      exact ⟨_, t, s', summary,
        Setting.Run.of_run (S := requestSetting _) (fun _ _ _ => trivial) hfound,
        Setting.Run.of_run (S := requestSetting _) (fun _ _ _ => trivial) hr⟩
  | _ => cases hanswered

/-- A plan that starts with the test of the first request. -/
theorem request_executes_plan_pauses : ∃ persisted results events,
    nextRequest ["first", "second"] = some (persisted, results, events) ∧
      persisted.checkpointIndex = 1 ∧ PlanExecuted (firstRequestCalls ++ events)
        (pauses ["first", "second"]).toConfigList results := by
  have hnext : (nextRequest ["first", "second"]).map
      (fun r => (r.1.key, r.1.checkpointIndex, listedNames r.2.2))
        = some (plainSession.key, 1, [some ["first"]]) := by decide +kernel
  obtain ⟨⟨persisted, results, events⟩, hr, heq⟩ := Option.map_eq_some_iff.1 hnext
  obtain ⟨hkey, hindex, hlisted⟩ : persisted.key = plainSession.key ∧
    persisted.checkpointIndex = 1 ∧ listedNames events = [some ["first"]] := by simpa using heq
  obtain ⟨before, t, s', summary, hfound, hrun⟩ := exists_nextRequest hr
  refine ⟨persisted, results, events, hr, hindex, request_executes_plan {} plainSession.key _ before
    events afterFirstRequest t s' _ "backend" _ (some persisted) results summary requests_first
    (by decide) hfound ?_ hrun (namesAgree_pauses _) ?_⟩
  · rintro p hp
    rw [← Option.some.inj hp]
    exact hkey
  · rintro p hp
    obtain rfl := Option.some.inj hp
    refine covered_of_listedNames fun listed hmem => ?_
    rw [hlisted] at hmem
    refine ⟨["first"], List.mem_singleton.1 hmem, fun test htest => ?_⟩
    rw [hindex] at htest
    obtain rfl : test = (pause "first").toConfig := List.mem_singleton.1 htest
    decide

/-- The checkpoint of the first request skips the first test of another plan. -/
theorem request_plan_not_executed :
    ¬∀ (h : Handler) (k : SessionKey) (past before events : List (Event Reply))
      (s t s' : ThreadState) (active : Option String) (sessionId : String)
      (request : RunTestRequest) (persisted : Option Session) (results : List Dto.TestResult)
      (summary : Dto.TestSummary),
      Requests h k past s.db → request.validate = true → (request.tests.map (·.name)).Nodup →
      (requestSetting k.id).Run s
        (h.getOrRecoverSession active sessionId request.executionContext) before t
        (.done (.session persisted)) →
      (∀ p, persisted = some p → p.key = k) →
      (requestSetting k.id).Run t (h.runTestsOn request persisted) events s'
        (.done (.results results summary)) →
      NamesAgree s.db.collate k past request.toConfigList →
      PlanExecuted (past ++ events) request.toConfigList results := by
  intro hall
  have hnext : (nextRequest ["second", "third"]).map
      (fun r => (r.1.key, r.2.1.length)) = some (plainSession.key, 1) := by decide +kernel
  obtain ⟨⟨persisted, results, events⟩, hr, heq⟩ := Option.map_eq_some_iff.1 hnext
  obtain ⟨hkey, hlength⟩ := Prod.mk.inj heq
  obtain ⟨before, t, s', summary, hfound, hrun⟩ := exists_nextRequest hr
  obtain ⟨order, hperm, hresults⟩ := hall {} plainSession.key _ before events afterFirstRequest t
    s' _ "backend" _ (some persisted) results summary requests_first (by decide) (by decide) hfound
    (by rintro p hp; rw [← Option.some.inj hp]; exact hkey) hrun (namesAgree_pauses _)
  have htwo : 2 = results.length := hperm.length_eq.symm.trans hresults.length_eq
  exact absurd (htwo.trans hlength) (by decide)

end TokyoTester
