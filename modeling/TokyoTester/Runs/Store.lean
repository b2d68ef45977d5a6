import TokyoTester.Library.Program
import TokyoTester.Runs.Results
import TokyoTester.Sync.Server

set_option autoImplicit false

/-! # The store as the workflow service calls it (`pkg/db/mysql`)

The calls of the store that the submission and the execution of a workflow make, each one
transaction. Outside a sync batch a session's version is neither read nor written. A call may
fail although the database is fine: refused before it did anything, or with its reply lost after
it did everything. -/

namespace TokyoTester

open Table

/-- The text of an error of the store. -/
def DbError.message : DbError → String
  | .noRows => "sql: no rows in result set"
  | .cancellationRequested => "workflow cancellation requested"
  | .admission scope _ _ => "workflow queue limit reached for " ++ scope
  | .text message => message

namespace Database

variable (db : Database)

/-- `GetWorkflowJob`. -/
def getWorkflowJob (workflowRunId : String) : Except DbError WorkflowJob :=
  match db.jobOfRun workflowRunId with
  | some job => .ok job
  | none => .error .noRows

/-! ## Sessions outside a transaction -/

/-- `GetSession`: the version is not read. -/
def readSession (id : String) : Except DbError Session :=
  (db.getSession id).map fun s => { s with version := 0 }

/-- `ORDER BY updated_at DESC LIMIT 1`. -/
def newest : List Session → Option Session
  | [] => none
  | s :: rest =>
    match newest rest with
    | some t => if s.updatedAt ≥ t.updatedAt then some s else some t
    | none => some s

/-- `GetSessionByBackendSessionID`. -/
def getSessionByBackendSessionId (backendSessionId : String) : Except DbError Session :=
  match newest (db.sessions.filter fun s =>
      s.backendSessionId = backendSessionId && !s.isDeleted) with
  | some s => .ok { s with version := 0 }
  | none => .error (.text ("session not found for backend_session_id: " ++ backendSessionId))

/-- `FindSessionByExecution`. -/
def findSessionByExecution (workflowRunId scenarioId : String) : Except DbError Session :=
  match newest (db.sessions.filter fun s =>
      s.workflowRunId = workflowRunId && s.scenarioId = scenarioId && !s.isDeleted) with
  | some s => .ok { s with version := 0 }
  | none => .error (.text ("session not found for workflow_run_id=" ++ workflowRunId ++
      " scenario_id=" ++ scenarioId))

/-- `UpsertSession`: every column but the id, the creation time and the version. -/
def writeSession (session : Session) : Except DbError Database :=
  if !session.fits then .error dataTooLong
  else if !db.workflowExists session.workflowId then .error foreignKeyFails
  else .ok { db with
    sessions := upsert Session.id { session with version := 1 }
      (fun old => { session with id := old.id, createdAt := old.createdAt, version := old.version })
      db.sessions }

/-! ## Log events -/

/-- The messages a log column holds. -/
def decodeLogs (encoded : String) : Option (List String) :=
  if encoded = "" ∨ encoded = "null" then some []
  else (Codec.slice Codec.string).unmarshal encoded

/-- The tail of the log that a row keeps. -/
def logTail : Nat := 200

/-- A log column with one more message. -/
def appendLog (table message encoded : String) : Except DbError String :=
  match decodeLogs encoded with
  | none => .error (.text ("decode " ++ table ++ " logs"))
  | some logs =>
    let logs := logs ++ [message]
    .ok ((Codec.slice Codec.string).marshal (logs.drop (logs.length - logTail)))

/-- The step of `AppendWorkflowLogEvent` on the run's row. -/
def appendRunLog (workflowRunId message : String) (now : Time) : Except DbError Database :=
  match db.workflowRuns.find? fun r => r.id = workflowRunId && !r.isDeleted with
  | none => .error .noRows
  | some run => do
    let logs ← appendLog "workflow_runs" message run.logs
    .ok { db with
      workflowRuns := updateWhere (fun r => r.id = workflowRunId && !r.isDeleted)
        (fun r => { r with logs, updatedAt := now, version := r.version + 1 }) db.workflowRuns }

/-- The step of `AppendWorkflowLogEvent` on the scenario's row. -/
def appendSessionLog (scenarioRunId message : String) (now : Time) : Except DbError Database :=
  match db.sessions.find? fun s => s.id = scenarioRunId && !s.isDeleted with
  | none => .error .noRows
  | some session => do
    let logs ← appendLog "sessions" message session.logs
    .ok { db with
      sessions := updateWhere (fun s => s.id = scenarioRunId && !s.isDeleted)
        (fun s => { s with logs, updatedAt := now, version := s.version + 1 }) db.sessions }

/-- `AppendWorkflowLogEvent`: the histories of the run and the scenario, and the replay event. -/
def appendWorkflowLogEvent (workflowRunId payload : String) (createdAt : Time)
    (message scenarioRunId : String) : Except DbError Database := do
  let db ← db.appendRunLog workflowRunId message createdAt
  let db ← if scenarioRunId = "" then .ok db
    else db.appendSessionLog scenarioRunId message createdAt
  .ok (db.insertWorkflowRunEvent workflowRunId .workflowlog payload createdAt)

end Database

/-! ## The interface -/

/-- A call of the store. -/
inductive StoreOp where
  | getWorkflowJob (workflowRunId : String)
  | admitWorkflowJob (job : WorkflowJob) (run : WorkflowRun) (sessions : List Session)
      (policy : WorkflowAdmissionPolicy)
  | cancelWorkflowJob (jobId ownerId : String) (now : Time)
  | releaseWorkflowJob (jobId ownerId : String) (now : Time)
  | completeWorkflowJob (jobId ownerId : String) (now : Time)
  | failWorkflowJob (jobId ownerId message : String) (now : Time)
  | getWorkflow (id : String)
  | upsertWorkflow (workflow : Workflow)
  | getScenario (id : String)
  | upsertScenario (scenario : Scenario)
  | createWorkflowRevision (revision : WorkflowRevision)
  | getWorkflowRun (id : String)
  | upsertWorkflowRun (run : WorkflowRun)
  | getSession (id : String)
  | getSessionByBackendSessionId (backendSessionId : String)
  | findSessionByExecution (workflowRunId scenarioId : String)
  | upsertSession (session : Session)
  | listTestResults (sessionId : String)
  | upsertTestResult (result : TestResult)
  | appendWorkflowLogEvent (workflowRunId payload : String) (createdAt : Time)
      (message scenarioRunId : String)
  | appendWorkflowRunEvent (workflowRunId : String) (eventType : RunEventType) (payload : String)
      (createdAt : Time)

namespace StoreOp

/-- What a call returns when it succeeds. -/
abbrev Value : StoreOp → Type
  | getWorkflowJob _ => WorkflowJob
  | admitWorkflowJob _ _ _ _ => WorkflowJob × Bool
  | getWorkflow _ => Workflow
  | getScenario _ => Scenario
  | getWorkflowRun _ => WorkflowRun
  | getSession _ => Session
  | getSessionByBackendSessionId _ => Session
  | findSessionByExecution _ _ => Session
  | listTestResults _ => List TestResult
  | _ => Unit

/-- The transaction of a call; `clock` is the time of the server. -/
def run (clock : Time) (db : Database) : (op : StoreOp) → Except DbError (op.Value × Database)
  | getWorkflowJob workflowRunId => (db.getWorkflowJob workflowRunId).map (·, db)
  | admitWorkflowJob job run sessions policy =>
    db.admitWorkflowJob clock (some job) (some run) (sessions.map some) policy
  | cancelWorkflowJob jobId ownerId now => db.cancelWorkflowJob jobId ownerId now
  | releaseWorkflowJob jobId ownerId now => db.releaseWorkflowJob jobId ownerId now
  | completeWorkflowJob jobId ownerId now => db.completeWorkflowJob jobId ownerId now
  | failWorkflowJob jobId ownerId message now => db.failWorkflowJob jobId ownerId message now
  | getWorkflow id => (db.getWorkflow id).map (·, db)
  | upsertWorkflow workflow => (db.upsertWorkflow workflow).map ((), ·)
  | getScenario id => (db.getScenario id).map (·, db)
  | upsertScenario scenario => (db.upsertScenario scenario).map ((), ·)
  | createWorkflowRevision revision => (db.createWorkflowRevision revision).map ((), ·)
  | getWorkflowRun id => (db.getWorkflowRun id).map (·, db)
  | upsertWorkflowRun run => (db.upsertWorkflowRun run).map ((), ·)
  | getSession id => (db.readSession id).map (·, db)
  | getSessionByBackendSessionId id => (db.getSessionByBackendSessionId id).map (·, db)
  | findSessionByExecution workflowRunId scenarioId =>
    (db.findSessionByExecution workflowRunId scenarioId).map (·, db)
  | upsertSession session => (db.writeSession session).map ((), ·)
  | listTestResults sessionId => .ok (db.listTestResults sessionId, db)
  | upsertTestResult result =>
    (db.upsertTestResult result result.updatedAt (TestResult.rowKey db.collate)).map ((), ·)
  | appendWorkflowLogEvent workflowRunId payload createdAt message scenarioRunId =>
    (db.appendWorkflowLogEvent workflowRunId payload createdAt message scenarioRunId).map ((), ·)
  | appendWorkflowRunEvent workflowRunId eventType payload createdAt =>
    .ok ((), db.insertWorkflowRunEvent workflowRunId eventType payload createdAt)

end StoreOp

/-- What may go wrong with a call besides its transaction. -/
inductive Fault where
  /-- Nothing: the reply is that of the transaction. -/
  | none
  /-- The call fails and nothing happens. -/
  | refused (message : String)
  /-- The transaction is committed, but the caller sees an error. -/
  | lost (message : String)
deriving DecidableEq, Repr, Inhabited

/-- A transaction with its fault: the reply and the database after it. -/
def Fault.apply {α : Type} (fault : Fault) (db : Database)
    (transaction : Except DbError (α × Database)) : Except DbError α × Database :=
  match fault, transaction with
  | .refused message, _ => (.error (.text message), db)
  | _, .error e => (.error e, db)
  | .none, .ok (v, db') => (.ok v, db')
  | .lost message, .ok (_, db') => (.error (.text message), db')

/-- Whatever the fault, the transaction is committed or nothing happens. -/
theorem Fault.apply_cases {α : Type} (fault : Fault) (db : Database)
    (transaction : Except DbError (α × Database)) :
    (fault.apply db transaction).2 = db ∨
      ∃ v, transaction = .ok (v, (fault.apply db transaction).2) := by
  cases transaction with
  | error e => cases fault <;> exact .inl rfl
  | ok r =>
      cases fault with
      | none => exact .inr ⟨r.1, rfl⟩
      | refused message => exact .inl rfl
      | lost message => exact .inr ⟨r.1, rfl⟩

/-- A call with its fault. -/
def StoreOp.call (op : StoreOp) (fault : Fault) (clock : Time) (db : Database) :
    Except DbError op.Value × Database := fault.apply db (op.run clock db)

end TokyoTester
