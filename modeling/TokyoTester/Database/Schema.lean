import Mathlib.Tactic
import TokyoTester.Library.Table

set_option autoImplicit false

/-! # The runner's relational schema

The rows of the MySQL tables the runner works on (`pkg/db/migrations/mysql`, `pkg/db/interface.go`)
and the database as the record of its tables. Columns that the code reads as SQL `NULL` are
options; text columns that Go always writes as a string (never `NULL`) are strings. Instants are
integers in the resolution of `DATETIME(3)` (milliseconds), durations likewise.

An identifier stands for all the spellings that the collation of its column does not tell apart:
nothing in the code below compares identifiers that a statement has compared. Only the id of a test
result is joined from names that the runner compares itself, exactly, so its rows are found by what
the collation compares (`Database.collate`). The scheduler-lock row carries no data and is left out:
what it does is to make every transaction below one step. -/

namespace TokyoTester

/-- An instant in milliseconds. -/
abbrev Time := Int

/-- The contents of a binary column. -/
abbrev Bytes := List UInt8

/-! ## Statuses -/

/-- `workflow_jobs.status`, closed by the table's check constraint. -/
inductive JobStatus where
  | pending | running | cancelling | cancelled | completed | failed
deriving DecidableEq, Repr, Inhabited

namespace JobStatus

def text : JobStatus → String
  | pending => "pending"
  | running => "running"
  | cancelling => "cancelling"
  | cancelled => "cancelled"
  | completed => "completed"
  | failed => "failed"

/-- `status IN ('running', 'cancelling')`: a worker holds the lease. -/
def leased : JobStatus → Bool
  | running | cancelling => true
  | _ => false

def terminal : JobStatus → Bool
  | completed | failed | cancelled => true
  | _ => false

end JobStatus

/-- `workflow_runs.status` and `sessions.status`. The column is free text: the sync endpoint
    stores whatever a client sends, hence `other`. -/
inductive ExecutionStatus where
  | pending | running | cancelling | cancelled | completed | failed | partialFailed
  | cleanupFailed
  | other (text : String)
deriving DecidableEq, Repr, Inhabited

namespace ExecutionStatus

def text : ExecutionStatus → String
  | pending => "pending"
  | running => "running"
  | cancelling => "cancelling"
  | cancelled => "cancelled"
  | completed => "completed"
  | failed => "failed"
  | partialFailed => "partial_failed"
  | cleanupFailed => "cleanup_failed"
  | other text => text

/-- The column value of a text. -/
def ofText (text : String) : ExecutionStatus :=
  if text = "pending" then pending
  else if text = "running" then running
  else if text = "cancelling" then cancelling
  else if text = "cancelled" then cancelled
  else if text = "completed" then completed
  else if text = "failed" then failed
  else if text = "partial_failed" then partialFailed
  else if text = "cleanup_failed" then cleanupFailed
  else other text

/-- The run is over. -/
def runTerminal : ExecutionStatus → Bool
  | completed | failed | partialFailed | cleanupFailed | cancelled => true
  | _ => false

/-- The statuses a cancellation leaves alone:
    `status NOT IN ('completed', 'failed', 'cleanup_failed', 'cancelled')` negated. -/
def sessionTerminal : ExecutionStatus → Bool
  | completed | failed | cleanupFailed | cancelled => true
  | _ => false

end ExecutionStatus

/-- `sessions.phase` (`session_failover.go`); free text like the status. -/
inductive SessionPhase where
  | created | provisioning | provisioned | runningTests | testsCompleted | cleaningUp
  | cleanupFailed | completed | failed
  | other (text : String)
deriving DecidableEq, Repr, Inhabited

/-- `test_results.status`; free text like the others. -/
inductive TestStatus where
  | passed | failed
  | other (text : String)
deriving DecidableEq, Repr, Inhabited

/-! ## Rows -/

/-- A row of `workflow_jobs`. -/
structure WorkflowJob where
  id : String
  workflowRunId : String
  projectId : String
  userId : String
  requestHash : String
  payloadCiphertext : Option Bytes
  payloadNonce : Option Bytes
  status : JobStatus
  priority : Int
  estimatedCost : Int
  leaseOwner : Option String
  leaseExpiresAt : Option Time
  heartbeatAt : Option Time
  cancelRequestedAt : Option Time
  cancelledAt : Option Time
  cancelReason : Option String
  recoveryCount : Int
  lastError : Option String
  createdAt : Time
  updatedAt : Time
  startedAt : Option Time
  completedAt : Option Time
deriving DecidableEq, Repr, Inhabited

/-- A row of `workflow_runs`. -/
structure WorkflowRun where
  id : String
  projectId : String
  workflowId : String
  status : ExecutionStatus
  summary : String
  logs : String
  error : String
  startedAt : Option Time
  completedAt : Option Time
  metadata : String
  version : Int
  createdAt : Time
  updatedAt : Time
  clientId : String
  userId : String
  isDeleted : Bool
deriving DecidableEq, Repr, Inhabited

/-- A row of `sessions`: one scenario of one run. -/
structure Session where
  id : String
  projectId : String
  workflowRunId : String
  workflowId : String
  scenarioId : String
  scenarioName : String
  backendSessionId : String
  status : ExecutionStatus
  result : String
  containerIds : String
  logs : String
  error : String
  startedAt : Option Time
  completedAt : Option Time
  ownerId : String
  leaseExpiresAt : Option Time
  heartbeatAt : Option Time
  phase : SessionPhase
  checkpointIndex : Int
  serviceGraph : String
  testPlan : String
  runtimeSnapshot : String
  version : Int
  createdAt : Time
  updatedAt : Time
  clientId : String
  userId : String
  isDeleted : Bool
deriving DecidableEq, Repr, Inhabited

/-- A row of `test_results`. -/
structure TestResult where
  id : String
  projectId : String
  sessionId : String
  workflowRunId : String
  workflowId : String
  scenarioId : String
  scenarioName : String
  testName : String
  testType : String
  status : TestStatus
  resultData : String
  durationMs : Int
  executedAt : Time
  createdAt : Time
  updatedAt : Time
  clientId : String
  userId : String
  isDeleted : Bool
deriving DecidableEq, Repr, Inhabited

/-- A row of `workflows`. -/
structure Workflow where
  id : String
  projectId : String
  name : String
  description : String
  nodesConfig : String
  edgesConfig : String
  metadata : String
  version : Int
  createdAt : Time
  updatedAt : Time
  clientId : String
  userId : String
  isDeleted : Bool
deriving DecidableEq, Repr, Inhabited

/-- A row of `scenarios`. -/
structure Scenario where
  id : String
  projectId : String
  workflowId : String
  name : String
  description : String
  testsConfig : String
  testOrder : String
  metadata : String
  version : Int
  createdAt : Time
  updatedAt : Time
  clientId : String
  userId : String
  isDeleted : Bool
deriving DecidableEq, Repr, Inhabited

/-- What a revision records (`WorkflowSnapshot`). -/
structure WorkflowSnapshot where
  workflow : Option Workflow
  scenarios : List Scenario
deriving DecidableEq, Repr, Inhabited

/-- A row of `workflow_revisions`. The snapshot column only ever holds what the server marshalled
    from a `WorkflowSnapshot`, and is kept decoded. -/
structure WorkflowRevision where
  id : String
  projectId : String
  workflowId : String
  revisionNumber : Int
  workflowVersion : Int
  snapshot : WorkflowSnapshot
  message : String
  createdBy : String
  createdAt : Time
deriving DecidableEq, Repr, Inhabited

/-- `workflow_run_events.event_type`, closed by a check constraint. -/
inductive RunEventType where
  | workflowlog | testresult
deriving DecidableEq, Repr, Inhabited

/-- A row of `workflow_run_events`. -/
structure WorkflowRunEvent where
  id : Nat
  workflowRunId : String
  eventType : RunEventType
  payload : String
  createdAt : Time
deriving DecidableEq, Repr, Inhabited

/-- A row of `workflow_submission_rate_limits`, keyed by scope and subject. -/
structure SubmissionRateLimit where
  scope : String
  subjectId : String
  windowStartedAt : Time
  requestCount : Int
  updatedAt : Time
deriving DecidableEq, Repr, Inhabited

/-- A row of `sync_metadata`, keyed by user and client. -/
structure SyncMetadata where
  clientId : String
  userId : String
  lastSyncAt : Time
  lastSyncVersion : Int
  syncStatus : String
deriving DecidableEq, Repr, Inhabited

/-- The database: its tables, the event table's auto-increment counter, and what the collation
    compares of the id of a test result. -/
structure Database where
  workflowJobs : List WorkflowJob := []
  workflowRuns : List WorkflowRun := []
  sessions : List Session := []
  testResults : List TestResult := []
  workflows : List Workflow := []
  scenarios : List Scenario := []
  workflowRevisions : List WorkflowRevision := []
  workflowRunEvents : List WorkflowRunEvent := []
  nextEventId : Nat := 1
  submissionRateLimits : List SubmissionRateLimit := []
  syncMetadata : List SyncMetadata := []
  collate : String → String := id

instance : Inhabited Database := ⟨{}⟩

/-- The key of a test result's row. -/
def TestResult.rowKey (collate : String → String) (r : TestResult) : String := collate r.id

/-! ## Column sizes

`INSERT IGNORE` turns the errors of strict mode into warnings: a value that is too long for its
column is cut to the column's size and stored. -/

/-- A value stored in a `VARCHAR(n)` column by `INSERT IGNORE`. -/
def varchar (n : Nat) (s : String) : String := String.ofList (s.toList.take n)

/-- The size of a `BLOB` column. -/
def blobSize : Nat := 65535

/-- A value stored in a `BLOB` column by `INSERT IGNORE`. -/
def blob (b : Bytes) : Bytes := b.take blobSize

theorem varchar_of_length_le {n : Nat} {s : String} (h : s.toList.length ≤ n) :
    varchar n s = s := by
  simp [varchar, List.take_of_length_le h]

theorem blob_of_length_le {b : Bytes} (h : b.length ≤ blobSize) : blob b = b :=
  List.take_of_length_le h

end TokyoTester
