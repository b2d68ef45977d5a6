import TokyoTester.Database.Client

set_option autoImplicit false

/-! # The sync endpoint of the runner (`pkg/sync/service.go`)

A client sends a batch of changes. `processBatch` applies them one after the other inside one
transaction: a change that loses the version check is reported as a conflict and skipped, a
change that fails is reported as an error, and one error rolls the whole batch back. The second
writer of workflows and scenarios is the restore of a revision (`workflow_handlers.go`).

A change's data is what its JSON decodes to: the fields of `WorkflowData`, `ScenarioData` and so
on are the columns of the row they become, so the row types serve for both; `none` is data that
does not decode. The clock gives each change the instant it is processed at.

Every statement can fail on its own account: the connection is lost, or a column that is read is
`NULL`. A read that fails is taken for a row that is not there, a write that fails is an error of
its change. The ids of rows stand for the keys by which their columns compare. -/

namespace TokyoTester

open Versioned

/-- `change_type`. -/
inductive ChangeType where
  | insert | update | delete
deriving DecidableEq, Repr, Inhabited

/-- `entity_type` with the decoded data. -/
inductive ChangeData where
  | workflow (data : Option Workflow)
  | scenario (data : Option Scenario)
  | workflowRun (data : Option WorkflowRun)
  | scenarioRun (data : Option Session)
  | testResult (data : Option TestResult)
deriving DecidableEq, Repr, Inhabited

/-- `SyncChange`. -/
structure SyncChange where
  entityId : String
  changeType : ChangeType
  data : ChangeData
  clientTime : Time
  clientVersion : Int
deriving DecidableEq, Repr, Inhabited

/-- `SyncBatchRequest`. -/
structure SyncBatchRequest where
  clientId : String
  userId : String
  projectId : String
  changes : List SyncChange
deriving DecidableEq, Repr, Inhabited

/-- The two messages a conflict can carry: "`entity` changed since you opened it (your base
    version: …, current version: …)" and "Server version (updated at: …) is newer than client
    (updated at: …)". -/
inductive ConflictMessage where
  | changedSince (entity : String) (baseVersion currentVersion : Int)
  | serverNewer (updatedAt clientTime : Time)
deriving DecidableEq, Repr, Inhabited

/-- The row a conflict sends back. -/
inductive CurrentData where
  | none
  | workflow (row : Workflow)
  | scenario (row : Scenario)
deriving DecidableEq, Repr, Inhabited

/-- `ConflictInfo`. -/
structure ConflictInfo where
  entityType : String
  entityId : String
  resolution : String
  message : ConflictMessage
  clientVersion : Int := 0
  currentVersion : Int := 0
  currentData : CurrentData := .none
deriving DecidableEq, Repr, Inhabited

/-- `SyncError`. -/
structure SyncError where
  entityType : String
  entityId : String
  message : DbError
deriving DecidableEq, Repr, Inhabited

/-- `SyncBatchResponse`. -/
structure SyncBatchResponse where
  success : Bool := true
  processedCount : Nat := 0
  conflicts : List ConflictInfo := []
  errors : List SyncError := []
  serverVersion : Int := 0
deriving DecidableEq, Repr, Inhabited

/-- `appendConflict`. -/
def appendConflict (entityType entityId : String) (clientVersion currentVersion : Int)
    (current : CurrentData) : ConflictInfo :=
  { entityType, entityId, resolution := "manual"
    message := .changedSince entityType clientVersion currentVersion
    clientVersion, currentVersion, currentData := current }

/-- The outcome of one change: the conflicts it adds and the new state of the transaction. -/
abbrev ChangeOutcome := Except DbError (List ConflictInfo × Database)

/-! ## Statements that fail -/

/-- The errors of a change's statements, when they have one of their own: its read of the row, its
    write, and whether the statements that finish a session fail. -/
structure StatementFaults where
  read : Option DbError := none
  write : Option DbError := none
  finish : Bool := false

/-- A statement with an error of its own. -/
def failing {α : Type} (fault : Option DbError) (statement : Except DbError α) : Except DbError α :=
  match fault with
  | some e => .error e
  | none => statement

/-! ## Workflows and scenarios -/

/-- The statements a versioned entity is stored with. -/
structure EntityStore (ρ : Type) where
  name : String
  get : String → Database → Except DbError ρ
  upsert : ρ → Database → Except DbError Database
  updateIfVersion : ρ → Int → Database → Except DbError (Bool × Database)
  deleteIfVersion : String → Int → Time → Database → Except DbError (Bool × Database)
  current : ρ → CurrentData

/-- The statements of a change that can fail. -/
def EntityStore.withFaults {ρ : Type} (store : EntityStore ρ) (faults : StatementFaults) :
    EntityStore ρ :=
  { store with
    get := fun k db => failing faults.read (store.get k db)
    upsert := fun row db => failing faults.write (store.upsert row db)
    updateIfVersion := fun row base db => failing faults.write (store.updateIfVersion row base db)
    deleteIfVersion := fun k base now db =>
      failing faults.write (store.deleteIfVersion k base now db) }

/-- The shape that `processWorkflowChangeInTx` and `processScenarioChangeInTx` share; `row v` is
    the decoded row at version `v`. -/
def processEntityChange {ρ : Type} [VersionedRow ρ] (store : EntityStore ρ) (change : SyncChange)
    (row : Option (Int → ρ)) (now : Time) (db : Database) : ChangeOutcome :=
  let conflict (id : String) (existing : ρ) : ConflictInfo :=
    appendConflict store.name id change.clientVersion (VersionedRow.version existing)
      (store.current existing)
  match change.changeType, row with
  | .insert, none => .error (.text ("failed to unmarshal " ++ store.name ++ " data"))
  | .update, none => .error (.text ("failed to unmarshal " ++ store.name ++ " data"))
  | .insert, some row =>
    match store.get (VersionedRow.key (row 1)) db with
    | .ok existing => .ok ([conflict (VersionedRow.key (row 1)) existing], db)
    | .error _ => do
      let db ← store.upsert (row 1) db
      pure ([], db)
  | .update, some row => do
    let next := row (change.clientVersion + 1)
    let (updated, db) ← store.updateIfVersion next change.clientVersion db
    if updated then pure ([], db)
    else
      match store.get (VersionedRow.key next) db with
      | .ok existing => pure ([conflict (VersionedRow.key next) existing], db)
      | .error _ =>
        .error (.text (store.name ++ " " ++ VersionedRow.key next ++ " no longer exists"))
  | .delete, _ => do
    let (deleted, db) ← store.deleteIfVersion change.entityId change.clientVersion now db
    if deleted then pure ([], db)
    else
      match store.get change.entityId db with
      | .ok existing => pure ([conflict change.entityId existing], db)
      | .error _ => pure ([], db)

def workflowStore : EntityStore Workflow where
  name := "workflow"
  get := Database.getWorkflow
  upsert := Database.upsertWorkflow
  updateIfVersion := Database.updateWorkflowIfVersion
  deleteIfVersion := Database.deleteWorkflowIfVersion
  current := .workflow

def scenarioStore : EntityStore Scenario where
  name := "scenario"
  get := Database.getScenario
  upsert := Database.upsertScenario
  updateIfVersion := Database.updateScenarioIfVersion
  deleteIfVersion := Database.deleteScenarioIfVersion
  current := .scenario

/-- The row of a workflow change. Only an insert stores the creation time. -/
def workflowRow (userId : String) (now : Time) (data : Workflow) (version : Int) : Workflow :=
  { data with
    version, userId, updatedAt := now
    createdAt := if data.createdAt = zeroTime then now else data.createdAt }

/-- The row of a scenario change. Only an insert stores the creation time. -/
def scenarioRow (userId : String) (now : Time) (data : Scenario) (version : Int) : Scenario :=
  { data with
    version, userId, updatedAt := now
    createdAt := if data.createdAt = zeroTime then now else data.createdAt }

/-- `processWorkflowChangeInTx`. -/
def processWorkflowChangeInTx (change : SyncChange) (data : Option Workflow) (userId : String)
    (faults : StatementFaults) (now : Time) (db : Database) : ChangeOutcome :=
  processEntityChange (workflowStore.withFaults faults) change (data.map (workflowRow userId now)) now
    db

/-- `processScenarioChangeInTx`. -/
def processScenarioChangeInTx (change : SyncChange) (data : Option Scenario) (userId : String)
    (faults : StatementFaults) (now : Time) (db : Database) : ChangeOutcome :=
  processEntityChange (scenarioStore.withFaults faults) change (data.map (scenarioRow userId now)) now
    db

/-! ## Runs, sessions and results -/

/-- The conflict of a run or a session that the server changed after the client did. -/
def serverWins (entityType entityId : String) (updatedAt clientTime : Time) : ConflictInfo :=
  { entityType, entityId, resolution := "server_wins"
    message := .serverNewer updatedAt clientTime }

/-- `processWorkflowRunChangeInTx`. -/
def processWorkflowRunChangeInTx (change : SyncChange) (data : Option WorkflowRun)
    (userId : String) (faults : StatementFaults) (now : Time) (db : Database) : ChangeOutcome :=
  match change.changeType, data with
  | .delete, _ => failing faults.write (.ok ([], db.deleteWorkflowRun change.entityId now))
  | _, none => .error (.text "failed to unmarshal workflow run data")
  | _, some data =>
    let store : ChangeOutcome := do
      let db ← failing faults.write (db.upsertWorkflowRun { data with userId })
      pure ([], db)
    match failing faults.read (db.getWorkflowRun data.id) with
    | .ok existing =>
      if change.clientTime < existing.updatedAt then
        .ok ([serverWins "workflow_run" data.id existing.updatedAt change.clientTime], db)
      else store
    | .error _ => store

/-- `processSessionChangeInTx`. -/
def processSessionChangeInTx (change : SyncChange) (data : Option Session) (userId : String)
    (faults : StatementFaults) (now : Time) (db : Database) : ChangeOutcome :=
  match change.changeType, data with
  | .delete, _ => failing faults.write (.ok ([], db.deleteSession change.entityId now))
  | _, none => .error (.text "failed to unmarshal session data")
  | _, some data =>
    let store : ChangeOutcome := do
      let db ← failing faults.write (db.upsertSession { data with userId })
      pure ([], db)
    match failing faults.read (db.getSession data.id) with
    | .ok existing =>
      if change.clientTime < existing.updatedAt then
        .ok ([serverWins "session" data.id existing.updatedAt change.clientTime], db)
      else store
    | .error _ => store

/-- The summary a finished session gets as its result. -/
def sessionSummary (total passed failed : Nat) : String :=
  Json.marshal (.obj [("failed", .int failed), ("passed", .int passed), ("total", .int total)])

/-- How many of a session's results passed, and how many failed. -/
def passedCount (results : List TestResult) : Nat := results.countP fun r => r.status = .passed

def failedCount (results : List TestResult) : Nat := results.countP fun r => r.status = .failed

/-- The session that its results finish. -/
def finishedSession (results : List TestResult) (now : Time) (session : Session) : Session :=
  { session with
    status := if failedCount results > 0 then .failed else .completed
    completedAt := some now, updatedAt := now, version := session.version + 1
    result := sessionSummary results.length (passedCount results) (failedCount results) }

/-- Every result has passed or failed, and there is one. -/
def allCompleted (results : List TestResult) : Bool :=
  results.length > 0 && passedCount results + failedCount results = results.length

/-- The end of `processTestResultChangeInTx`: once every result of a session has passed or
    failed, the session is finished. Its errors are logged and dropped. -/
def finalizeSession (sessionId : String) (fails : Bool) (now : Time) (db : Database) : Database :=
  let results := db.listTestResults sessionId
  if !fails && allCompleted results then
    match db.getSession sessionId with
    | .error _ => db
    | .ok session =>
      if session.status ≠ .completed ∧ session.status ≠ .failed then
        match db.upsertSession (finishedSession results now session) with
        | .ok db => db
        | .error _ => db
      else db
  else db

/-- `processTestResultChangeInTx`. Every change type but a deletion is an upsert. -/
def processTestResultChangeInTx (change : SyncChange) (data : Option TestResult)
    (userId : String) (faults : StatementFaults) (now : Time) (db : Database) : ChangeOutcome :=
  match change.changeType, data with
  | .delete, _ => failing faults.write (.ok ([], db.deleteTestResult change.entityId now))
  | _, none => .error (.text "failed to unmarshal test result data")
  | _, some data => do
    let db ← failing faults.write (db.upsertTestResult { data with userId } now)
    pure ([], finalizeSession data.sessionId faults.finish now db)

/-- `processChangeInTx`. -/
def processChangeInTx (userId : String) (faults : StatementFaults) (now : Time)
    (change : SyncChange) (db : Database) : ChangeOutcome :=
  match change.data with
  | .workflow data => processWorkflowChangeInTx change data userId faults now db
  | .scenario data => processScenarioChangeInTx change data userId faults now db
  | .workflowRun data => processWorkflowRunChangeInTx change data userId faults now db
  | .scenarioRun data => processSessionChangeInTx change data userId faults now db
  | .testResult data => processTestResultChangeInTx change data userId faults now db

/-! ## Batches -/

def ChangeData.entityType : ChangeData → String
  | workflow _ => "workflow"
  | scenario _ => "scenario"
  | workflowRun _ => "workflow_run"
  | scenarioRun _ => "scenario_run"
  | testResult _ => "test_result"

/-- What can go wrong in a batch besides its changes. -/
structure BatchFaults where
  statements : Nat → StatementFaults := fun _ => {}
  syncMetadata : Option DbError := none
  commit : Option DbError := none

/-- The loop of `ProcessBatch`: a failed statement leaves the transaction as it was. -/
def processChanges (userId : String) (clock : Nat → Time) (faults : BatchFaults) :
    List SyncChange → Nat → Database → SyncBatchResponse → SyncBatchResponse × Database
  | [], _, db, response => (response, db)
  | change :: rest, n, db, response =>
    match processChangeInTx userId (faults.statements n) (clock n) change db with
    | .error e =>
      processChanges userId clock faults rest (n + 1) db
        { response with
          errors := response.errors ++ [⟨change.data.entityType, change.entityId, e⟩] }
    | .ok (conflicts, db) =>
      processChanges userId clock faults rest (n + 1) db
        { response with
          conflicts := response.conflicts ++ conflicts
          processedCount := response.processedCount + 1 }

/-- The sync metadata that a batch stores. -/
def nextSyncMetaData (now : Time) (req : SyncBatchRequest) (db : Database) : SyncMetadata :=
  let syncMeta := (db.getSyncMetaData req.userId req.clientId).getD
    { clientId := req.clientId, userId := req.userId, lastSyncAt := now, lastSyncVersion := 0
      syncStatus := "syncing" }
  { syncMeta with
    lastSyncAt := now, lastSyncVersion := syncMeta.lastSyncVersion + 1, syncStatus := "idle" }

/-- `ProcessBatch`. -/
def processBatch (clock : Nat → Time) (faults : BatchFaults) (req : SyncBatchRequest)
    (db : Database) : SyncBatchResponse × Database :=
  let syncMeta := nextSyncMetaData (clock 0) req db
  let (response, changed) := processChanges req.userId clock faults req.changes 0 db {}
  let response := { response with serverVersion := syncMeta.lastSyncVersion }
  match failing faults.syncMetadata (changed.upsertSyncMetaData syncMeta) with
  | .error e =>
    ({ response with success := false, errors := response.errors ++ [⟨"", "", e⟩] }, db)
  | .ok committed =>
    if response.errors ≠ [] then ({ response with success := false }, db)
    else
      match faults.commit with
      | some e =>
        ({ response with success := false, errors := response.errors ++ [⟨"", "", e⟩] }, db)
      | none => (response, committed)

/-! ## Restoring a revision -/

/-- The answers of `RestoreWorkflowRevision` that change nothing. -/
inductive RestoreError where
  | badRequest | notFound | invalidRevision | versionConflict
  | store (e : DbError)
deriving DecidableEq, Repr, Inhabited

/-- A statement of the restore, with its error passed on. -/
def restoreTry {α : Type} : Except DbError α → Except RestoreError α
  | .ok a => .ok a
  | .error e => .error (.store e)

/-- The restore's first loop: scenarios that are not in the snapshot are deleted. -/
def restoreDeletions (now : Time) (kept : List String) :
    List Scenario → Database → Except RestoreError Database
  | [], db => .ok db
  | scenario :: rest, db =>
    if kept.contains scenario.id then restoreDeletions now kept rest db
    else do
      let (deleted, db) ← restoreTry (db.deleteScenarioIfVersion scenario.id scenario.version now)
      if !deleted then .error .versionConflict else restoreDeletions now kept rest db

/-- One turn of the restore's second loop: a scenario of the snapshot is updated, or created when
    the read of its live row finds none or fails. -/
def restoreScenario (projectId workflowId userId : String) (now : Time) (scenario : Scenario)
    (db : Database) (unread : Option DbError := none) : Except RestoreError Database :=
  let scenario := { scenario with projectId, workflowId, updatedAt := now, userId }
  match failing unread (db.getScenario scenario.id) with
  | .error _ => restoreTry (db.upsertScenario { scenario with version := 1, createdAt := now })
  | .ok current => do
    let next := { scenario with
      version := current.version + 1, createdAt := current.createdAt }
    let (updated, db) ← restoreTry (db.updateScenarioIfVersion next current.version)
    if !updated then .error .versionConflict else .ok db

/-- The restore's second loop; `unread n` is the error of the `n`-th read. -/
def restoreScenarios (projectId workflowId userId : String) (now : Time)
    (scenarios : List Scenario) (db : Database) (unread : Nat → Option DbError := fun _ => none) :
    Except RestoreError Database :=
  match scenarios with
  | [] => .ok db
  | scenario :: rest => do
    let db ← restoreScenario projectId workflowId userId now scenario db (unread 0)
    restoreScenarios projectId workflowId userId now rest db fun n => unread (n + 1)

/-- The first half of the restore's transaction: the workflow is written back and the scenarios
    it did not have are deleted. Returns the scenarios of the snapshot. -/
def restoreWorkflow (projectId workflowId revisionId userId : String) (expectedVersion : Int)
    (now : Time) (db : Database) : Except RestoreError (List Scenario × Database) :=
  if projectId = "" ∨ expectedVersion < 1 then .error .badRequest
  else
    match db.workflowRevisions.find? fun r =>
        r.id = revisionId && r.projectId = projectId && r.workflowId = workflowId with
    | none => .error .notFound
    | some revision =>
      match revision.snapshot.workflow with
      | none => .error .invalidRevision
      | some workflow => do
        let current := db.listScenariosByWorkflow workflowId
        let restored := { workflow with
          id := workflowId, projectId, version := expectedVersion + 1, updatedAt := now, userId }
        let (updated, db) ← restoreTry (db.updateWorkflowIfVersion restored expectedVersion)
        if !updated then .error .versionConflict
        else do
          let kept := revision.snapshot.scenarios.map Scenario.id
          let db ← restoreDeletions now kept current db
          pure (revision.snapshot.scenarios, db)

/-- The transaction of `RestoreWorkflowRevision`. The checkpoint that follows it only adds a
    revision. -/
def restoreWorkflowRevision (projectId workflowId revisionId userId : String)
    (expectedVersion : Int) (now : Time) (db : Database)
    (unread : Nat → Option DbError := fun _ => none) : Except RestoreError Database := do
  let (scenarios, db) ←
    restoreWorkflow projectId workflowId revisionId userId expectedVersion now db
  restoreScenarios projectId workflowId userId now scenarios db unread

/-- `CreateWorkflowRevision`, with the id drawn by its caller. -/
def Database.createWorkflowRevision (revision : WorkflowRevision) (db : Database) :
    Except DbError Database :=
  let ofWorkflow := db.workflowRevisions.filter fun r => r.workflowId = revision.workflowId
  let next := (ofWorkflow.map WorkflowRevision.revisionNumber).foldl max 0 + 1
  if !db.workflowExists revision.workflowId then .error foreignKeyFails
  else .ok { db with
    workflowRevisions := db.workflowRevisions ++ [{ revision with revisionNumber := next }] }

/-- `checkpointWorkflow`: the live workflow and its scenarios become a revision. -/
def checkpointWorkflow (projectId workflowId message userId revisionId : String) (now : Time)
    (db : Database) : Except DbError Database :=
  match db.getWorkflow workflowId with
  | .error _ => .error (.text "workflow not found")
  | .ok workflow =>
    if workflow.projectId ≠ projectId then .error (.text "workflow not found")
    else
      db.createWorkflowRevision
        { id := revisionId, projectId, workflowId, revisionNumber := 0
          workflowVersion := workflow.version
          snapshot := ⟨some workflow, db.listScenariosByWorkflow workflowId⟩
          message := if message.trimAscii.isEmpty then "Manual checkpoint" else message
          createdBy := userId, createdAt := now }

end TokyoTester
