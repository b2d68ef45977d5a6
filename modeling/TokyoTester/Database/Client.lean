import TokyoTester.Database.WorkflowJobs
import TokyoTester.Library.Versioned

set_option autoImplicit false

/-! # Rows of the user's entities (`pkg/db/mysql/client.go`)

The statements of the store on workflows, scenarios, runs, sessions and test results, as they run
inside a transaction. Outside `INSERT IGNORE` the server is in strict mode: a value too long for
its column, or a foreign key without its parent row, is an error and the statement does nothing. -/

namespace TokyoTester

open Table Versioned

/-! ## Columns that can refuse a value -/

/-- A value fits a `VARCHAR(n)` column. -/
def fitsVarchar (n : Nat) (s : String) : Bool := s.length ≤ n

/-- A value fits a `TEXT` column. -/
def fitsText (s : String) : Bool := s.utf8ByteSize ≤ 65535

def Workflow.fits (w : Workflow) : Bool :=
  [w.id, w.projectId, w.name, w.clientId, w.userId].all (fitsVarchar 255) &&
    fitsText w.description

def Scenario.fits (s : Scenario) : Bool :=
  [s.id, s.projectId, s.workflowId, s.name, s.clientId, s.userId].all (fitsVarchar 255) &&
    fitsText s.description

def WorkflowRun.fits (r : WorkflowRun) : Bool :=
  [r.id, r.projectId, r.workflowId, r.clientId, r.userId].all (fitsVarchar 255) &&
    fitsVarchar 64 r.status.text && fitsText r.error

def SessionPhase.text : SessionPhase → String
  | created => "created"
  | provisioning => "provisioning"
  | provisioned => "provisioned"
  | runningTests => "running_tests"
  | testsCompleted => "tests_completed"
  | cleaningUp => "cleaning_up"
  | cleanupFailed => "cleanup_failed"
  | completed => "completed"
  | failed => "failed"
  | other text => text

def Session.fits (s : Session) : Bool :=
  [s.id, s.projectId, s.workflowRunId, s.workflowId, s.scenarioId, s.scenarioName,
    s.backendSessionId, s.ownerId, s.clientId, s.userId].all (fitsVarchar 255) &&
    fitsVarchar 64 s.status.text && fitsVarchar 64 s.phase.text && fitsText s.error

def TestStatus.text : TestStatus → String
  | passed => "passed"
  | failed => "failed"
  | other text => text

def TestResult.fits (r : TestResult) : Bool :=
  [r.id, r.projectId, r.sessionId, r.workflowRunId, r.workflowId, r.scenarioId, r.scenarioName,
    r.testName, r.clientId, r.userId].all (fitsVarchar 255) &&
    fitsVarchar 64 r.testType && fitsVarchar 64 r.status.text

/-! ## Optimistic locking on workflows and scenarios -/

instance : VersionedRow Workflow where
  key := Workflow.id
  version := Workflow.version
  isDeleted := Workflow.isDeleted
  assign new old := { new with id := old.id, createdAt := old.createdAt }
  markDeleted now w := { w with isDeleted := true, version := w.version + 1, updatedAt := now }
  assign_key _ _ := rfl
  assign_version _ _ := rfl
  markDeleted_key _ _ := rfl
  markDeleted_version _ _ := rfl

instance : VersionedRow Scenario where
  key := Scenario.id
  version := Scenario.version
  isDeleted := Scenario.isDeleted
  assign new old := { new with id := old.id, createdAt := old.createdAt }
  markDeleted now s := { s with isDeleted := true, version := s.version + 1, updatedAt := now }
  assign_key _ _ := rfl
  assign_version _ _ := rfl
  markDeleted_key _ _ := rfl
  markDeleted_version _ _ := rfl

namespace Database

/-- The server's answer to a value it refuses. -/
def dataTooLong : DbError := .text "Data too long for column"

/-- The server's answer to a missing parent row. -/
def foreignKeyFails : DbError := .text "Cannot add or update a child row: a foreign key constraint fails"

/-- `GetWorkflow`. -/
def getWorkflow (id : String) (db : Database) : Except DbError Workflow :=
  match getLive id db.workflows with
  | some w => .ok w
  | none => .error (.text ("workflow not found: " ++ id))

/-- `UpsertWorkflow`. -/
def upsertWorkflow (w : Workflow) (db : Database) : Except DbError Database :=
  if !w.fits then .error dataTooLong
  else .ok { db with workflows := upsertRow w db.workflows }

/-- `UpdateWorkflowIfVersion`: whether the row was updated. The columns are checked when a row is
    assigned. -/
def updateWorkflowIfVersion (w : Workflow) (baseVersion : Int) (db : Database) :
    Except DbError (Bool × Database) :=
  let r := updateIfVersion w baseVersion db.workflows
  if r.1 && !w.fits then .error dataTooLong
  else .ok (r.1, { db with workflows := r.2 })

/-- `DeleteWorkflowIfVersion`: whether the row was deleted. -/
def deleteWorkflowIfVersion (id : String) (baseVersion : Int) (now : Time) (db : Database) :
    Except DbError (Bool × Database) :=
  let r := deleteIfVersion id baseVersion now db.workflows
  .ok (r.1, { db with workflows := r.2 })

/-- `GetScenario`. -/
def getScenario (id : String) (db : Database) : Except DbError Scenario :=
  match getLive id db.scenarios with
  | some s => .ok s
  | none => .error (.text ("scenario not found: " ++ id))

/-- `UpsertScenario`. -/
def upsertScenario (s : Scenario) (db : Database) : Except DbError Database :=
  if !s.fits then .error dataTooLong
  else if !db.workflowExists s.workflowId then .error foreignKeyFails
  else .ok { db with scenarios := upsertRow s db.scenarios }

/-- `UpdateScenarioIfVersion`: whether the row was updated. The columns and the foreign key are
    checked when a row is assigned. -/
def updateScenarioIfVersion (s : Scenario) (baseVersion : Int) (db : Database) :
    Except DbError (Bool × Database) :=
  let r := updateIfVersion s baseVersion db.scenarios
  if r.1 && !s.fits then .error dataTooLong
  else if r.1 && !db.workflowExists s.workflowId then .error foreignKeyFails
  else .ok (r.1, { db with scenarios := r.2 })

/-- `DeleteScenarioIfVersion`: whether the row was deleted. -/
def deleteScenarioIfVersion (id : String) (baseVersion : Int) (now : Time) (db : Database) :
    Except DbError (Bool × Database) :=
  let r := deleteIfVersion id baseVersion now db.scenarios
  .ok (r.1, { db with scenarios := r.2 })

/-- `ListScenariosByWorkflow`; nothing depends on the order of the list. -/
def listScenariosByWorkflow (workflowId : String) (db : Database) : List Scenario :=
  db.scenarios.filter fun s => s.workflowId = workflowId && !s.isDeleted

/-! ## Runs, sessions and results -/

/-- `GetWorkflowRun`. -/
def getWorkflowRun (id : String) (db : Database) : Except DbError WorkflowRun :=
  match db.workflowRuns.find? fun r => r.id = id && !r.isDeleted with
  | some r => .ok r
  | none => .error (.text ("workflow run not found: " ++ id))

/-- `UpsertWorkflowRun`: every column but the id and the creation time. -/
def upsertWorkflowRun (run : WorkflowRun) (db : Database) : Except DbError Database :=
  if !run.fits then .error dataTooLong
  else if !db.workflowExists run.workflowId then .error foreignKeyFails
  else .ok { db with
    workflowRuns := upsert WorkflowRun.id run
      (fun old => { run with id := old.id, createdAt := old.createdAt }) db.workflowRuns }

/-- `DeleteWorkflowRun`. -/
def deleteWorkflowRun (id : String) (now : Time) (db : Database) : Database :=
  { db with
    workflowRuns := updateWhere (fun r => r.id = id && !r.isDeleted)
      (fun r => { r with isDeleted := true, updatedAt := now }) db.workflowRuns }

/-- `GetSession` of a transaction. -/
def getSession (id : String) (db : Database) : Except DbError Session :=
  match db.sessions.find? fun s => s.id = id && !s.isDeleted with
  | some s => .ok s
  | none => .error (.text ("session not found: " ++ id))

/-- `UpsertSession` of a transaction: an update that changes nothing is reported as a version
    conflict. -/
def upsertSession (session : Session) (db : Database) : Except DbError Database :=
  let merge (old : Session) : Session := { session with id := old.id, createdAt := old.createdAt }
  if !session.fits then .error dataTooLong
  else if !db.workflowExists session.workflowId then .error foreignKeyFails
  else
    match find Session.id session.id db.sessions with
    | some old =>
      if merge old = old then
        .error (.text "version conflict: session was modified by another process")
      else .ok { db with sessions := upsert Session.id session merge db.sessions }
    | none => .ok { db with sessions := upsert Session.id session merge db.sessions }

/-- `DeleteSession`. -/
def deleteSession (id : String) (now : Time) (db : Database) : Database :=
  { db with
    sessions := updateWhere (fun s => s.id = id && !s.isDeleted)
      (fun s => { s with isDeleted := true, updatedAt := now }) db.sessions }

/-- `ListTestResult`; nothing depends on the order of the list. -/
def listTestResults (sessionId : String) (db : Database) : List TestResult :=
  db.testResults.filter fun r => r.sessionId = sessionId && !r.isDeleted

/-- `UpsertTestResult`. On a duplicate id the session, the test's name and type and the creation
    time stay, and the update time is the server's; only then is the session's foreign key not
    looked at. -/
def upsertTestResult (result : TestResult) (now : Time) (db : Database)
    (key : TestResult → String := TestResult.id) : Except DbError Database :=
  let merge (old : TestResult) : TestResult :=
    { result with
      id := old.id, sessionId := old.sessionId, testName := old.testName
      testType := old.testType, createdAt := old.createdAt, updatedAt := now }
  if !result.fits then .error dataTooLong
  else if !db.workflowExists result.workflowId then .error foreignKeyFails
  else if (find key (key result) db.testResults).isNone &&
      !db.sessions.any (fun s => s.id = result.sessionId) then .error foreignKeyFails
  else .ok { db with testResults := upsert key result merge db.testResults }

/-- `DeleteTestResult`. -/
def deleteTestResult (id : String) (now : Time) (db : Database) : Database :=
  { db with
    testResults := updateWhere (fun r => r.id = id && !r.isDeleted)
      (fun r => { r with isDeleted := true, updatedAt := now }) db.testResults }

/-- `GetSyncMetaData`. -/
def getSyncMetaData (userId clientId : String) (db : Database) : Option SyncMetadata :=
  find (fun m : SyncMetadata => (m.userId, m.clientId)) (userId, clientId) db.syncMetadata

/-- `UpsertSyncMetaData`. -/
def upsertSyncMetaData (m : SyncMetadata) (db : Database) : Except DbError Database :=
  if !([m.userId, m.clientId].all (fitsVarchar 255)) then .error dataTooLong
  else .ok { db with
    syncMetadata := upsert (fun m : SyncMetadata => (m.userId, m.clientId)) m
      (fun old => { m with userId := old.userId, clientId := old.clientId }) db.syncMetadata }

end Database

end TokyoTester
