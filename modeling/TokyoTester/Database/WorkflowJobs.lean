import TokyoTester.Database.Schema
import TokyoTester.Library.Json

set_option autoImplicit false

/-! # The durable job queue (`pkg/db/mysql/workflow_jobs.go`)

Each operation of the queue is one transaction over the database: it returns its result and the
new database, or an error, in which case everything it did is rolled back. `LIMIT 1` without a
total order leaves the choice among equally placed rows to the server, and `SKIP LOCKED` leaves
out rows that other transactions hold; both are arguments of the claim. -/

namespace TokyoTester

open Table

/-- The errors of the store that callers tell apart. -/
inductive DbError where
  | noRows
  | cancellationRequested
  | admission (scope : String) (limit : Int) (retryAfter : Time)
  | text (message : String)
deriving DecidableEq, Repr, Inhabited

/-- `WorkflowAdmissionPolicy`. -/
structure WorkflowAdmissionPolicy where
  maxQueuedGlobal : Int := 0
  maxQueuedPerUser : Int := 0
  maxQueuedPerProject : Int := 0
  submissionsPerMinuteUser : Int := 0
  submissionsPerMinuteProject : Int := 0
  maxRunningPerUser : Int := 0
  maxRunningPerProject : Int := 0
deriving DecidableEq, Repr, Inhabited

def maxInt (value fallback : Int) : Int := if value > 0 then value else fallback

def boolInt (value : Bool) : Int := if value then 1 else 0

/-- One minute. -/
def minute : Time := 60000

/-- Go's zero time, `0001-01-01T00:00:00Z`. -/
def zeroTime : Time := -62135596800000

/-- `requireOneRow`. -/
def requireOneRow (rows : Nat) (operation : String) : Except DbError Unit :=
  if rows ≠ 1 then .error (.text (operation ++ " did not update an owned running job")) else .ok ()

namespace Database

/-- `INSERT INTO workflow_run_events`. -/
def insertWorkflowRunEvent (db : Database) (workflowRunId : String) (eventType : RunEventType)
    (payload : String) (createdAt : Time) : Database :=
  { db with
    workflowRunEvents := db.workflowRunEvents ++
      [{ id := db.nextEventId, workflowRunId, eventType, payload, createdAt }]
    nextEventId := db.nextEventId + 1 }

/-- The job of a run. -/
def jobOfRun (db : Database) (workflowRunId : String) : Option WorkflowJob :=
  find WorkflowJob.workflowRunId workflowRunId db.workflowJobs

/-- The job with an id. -/
def jobById (db : Database) (id : String) : Option WorkflowJob :=
  find WorkflowJob.id id db.workflowJobs

/-! ## Admission -/

/-- One check of `enforceWorkflowRateLimits`: a fixed window of a minute for each subject. The
    insert is not an `INSERT IGNORE`, so a subject too long for its column is refused. -/
def enforceWorkflowRateLimit (now : Time) (scope subjectId : String) (limit : Int)
    (db : Database) : Except DbError Database :=
  if limit ≤ 0 then .ok db
  else
    match find (fun r : SubmissionRateLimit => (r.scope, r.subjectId)) (scope, subjectId)
        db.submissionRateLimits with
    | none =>
      if subjectId.length > 255 then .error (.text "Data too long for column 'subject_id'")
      else .ok { db with
        submissionRateLimits := db.submissionRateLimits ++
          [{ scope, subjectId, windowStartedAt := now, requestCount := 1, updatedAt := now }] }
    | some row =>
      let windowEnds := row.windowStartedAt + minute
      let update (f : SubmissionRateLimit → SubmissionRateLimit) : Database :=
        { db with
          submissionRateLimits :=
            updateWhere (fun r => r.scope = scope && r.subjectId = subjectId) f
              db.submissionRateLimits }
      if ¬ now < windowEnds then
        .ok (update fun r => { r with windowStartedAt := now, requestCount := 1, updatedAt := now })
      else if row.requestCount ≥ limit then
        .error (.admission scope limit (windowEnds - now))
      else
        .ok (update fun r => { r with requestCount := r.requestCount + 1, updatedAt := now })

/-- `enforceWorkflowRateLimits`; `clock` is read when the job carries no creation time. -/
def enforceWorkflowRateLimits (clock : Time) (job : WorkflowJob)
    (policy : WorkflowAdmissionPolicy) (db : Database) : Except DbError Database := do
  let now := if job.createdAt = zeroTime then clock else job.createdAt
  let db ← db.enforceWorkflowRateLimit now "user_rate" job.userId policy.submissionsPerMinuteUser
  db.enforceWorkflowRateLimit now "project_rate" job.projectId policy.submissionsPerMinuteProject

/-- One check of `enforceWorkflowAdmission`: the pending jobs of a scope stay below its limit. -/
def enforceQueueLimit (scope : String) (limit : Int) (ofScope : WorkflowJob → Bool)
    (db : Database) : Except DbError Unit :=
  if limit > 0 ∧
      ((db.workflowJobs.countP fun j => j.status = .pending && ofScope j : Nat) : Int) ≥ limit then
    .error (.admission scope limit minute)
  else .ok ()

/-- `enforceWorkflowAdmission`. -/
def enforceWorkflowAdmission (job : WorkflowJob) (policy : WorkflowAdmissionPolicy)
    (db : Database) : Except DbError Unit := do
  db.enforceQueueLimit "server" policy.maxQueuedGlobal fun _ => true
  db.enforceQueueLimit "user" policy.maxQueuedPerUser fun j => j.userId = job.userId
  db.enforceQueueLimit "project" policy.maxQueuedPerProject fun j => j.projectId = job.projectId

/-- The row that the admission's `INSERT IGNORE` stores for a job. -/
def admittedRow (job : WorkflowJob) : WorkflowJob :=
  { id := varchar 255 job.id
    workflowRunId := varchar 255 job.workflowRunId
    projectId := varchar 255 job.projectId
    userId := varchar 255 job.userId
    requestHash := varchar 255 job.requestHash
    payloadCiphertext := job.payloadCiphertext.map blob
    payloadNonce := job.payloadNonce.map blob
    status := .pending
    priority := job.priority
    estimatedCost := maxInt job.estimatedCost 1
    leaseOwner := none
    leaseExpiresAt := none
    heartbeatAt := none
    cancelRequestedAt := none
    cancelledAt := none
    cancelReason := none
    recoveryCount := 0
    lastError := none
    createdAt := job.createdAt
    updatedAt := job.updatedAt
    startedAt := none
    completedAt := none }

/-- `INSERT IGNORE INTO workflow_jobs`: ignored when the id or the run id is taken. -/
def insertIgnoreWorkflowJob (job : WorkflowJob) (db : Database) : Bool × Database :=
  let row := admittedRow job
  if db.workflowJobs.any fun j => j.id = row.id || j.workflowRunId = row.workflowRunId then
    (false, db)
  else (true, { db with workflowJobs := db.workflowJobs ++ [row] })

/-- A parent row exists for the foreign key on `workflows(id)`. -/
def workflowExists (db : Database) (workflowId : String) : Bool :=
  db.workflows.any fun w => w.id = workflowId

/-- `INSERT IGNORE INTO workflow_runs`: ignored on a duplicate id or a missing workflow. -/
def insertIgnoreWorkflowRun (run : WorkflowRun) (db : Database) : Database :=
  let row := { run with
    id := varchar 255 run.id
    projectId := varchar 255 run.projectId
    workflowId := varchar 255 run.workflowId
    clientId := varchar 255 run.clientId
    userId := varchar 255 run.userId }
  if (db.workflowRuns.any fun r => r.id = row.id) || !db.workflowExists row.workflowId then db
  else { db with workflowRuns := db.workflowRuns ++ [row] }

/-- `INSERT IGNORE INTO sessions`: ignored on a duplicate id or a missing workflow. -/
def insertIgnoreSession (session : Session) (db : Database) : Database :=
  let row := { session with
    id := varchar 255 session.id
    projectId := varchar 255 session.projectId
    workflowRunId := varchar 255 session.workflowRunId
    workflowId := varchar 255 session.workflowId
    scenarioId := varchar 255 session.scenarioId
    scenarioName := varchar 255 session.scenarioName
    backendSessionId := varchar 255 session.backendSessionId
    ownerId := varchar 255 session.ownerId
    clientId := varchar 255 session.clientId
    userId := varchar 255 session.userId }
  if (db.sessions.any fun s => s.id = row.id) || !db.workflowExists row.workflowId then db
  else { db with sessions := db.sessions ++ [row] }

/-- The admission's step for the run's row: created when missing, refused when the stored row
    belongs to another workflow or project. -/
def admitWorkflowRun (run : WorkflowRun) (db : Database) : Except DbError Database :=
  let db := db.insertIgnoreWorkflowRun run
  match db.workflowRuns.find? fun r => r.id = run.id && !r.isDeleted with
  | none => .error .noRows
  | some stored =>
    if stored.projectId ≠ run.projectId ∨ stored.workflowId ≠ run.workflowId then
      .error (.text "workflow run id belongs to a different workflow or project")
    else .ok db

/-- The admission's step for one session. -/
def admitSession (session : Session) (db : Database) : Except DbError Database :=
  let db := db.insertIgnoreSession session
  match db.sessions.find? fun s => s.id = session.id && !s.isDeleted with
  | none => .error .noRows
  | some stored =>
    if stored.projectId ≠ session.projectId ∨ stored.workflowRunId ≠ session.workflowRunId ∨
        stored.workflowId ≠ session.workflowId ∨ stored.scenarioId ≠ session.scenarioId then
      .error (.text "scenario run id belongs to a different workflow or project")
    else .ok db

/-- The admission's loop over the sessions; Go passes pointers, so one may be nil. -/
def admitSessions : List (Option Session) → Database → Except DbError Database
  | [], db => .ok db
  | none :: _, _ => .error (.text "workflow session is nil")
  | some session :: rest, db => do
    let db ← db.admitSession session
    db.admitSessions rest

/-- The admission's step for the job's row: the stored job and whether it was created. -/
def admitJob (clock : Time) (job : WorkflowJob) (policy : WorkflowAdmissionPolicy)
    (db : Database) : Except DbError ((WorkflowJob × Bool) × Database) :=
  match db.jobOfRun job.workflowRunId with
  | some existing =>
    if existing.requestHash ≠ job.requestHash then
      .error (.text "workflow run id already exists with a different payload")
    else .ok ((existing, false), db)
  | none => do
    let db ← db.enforceWorkflowRateLimits clock job policy
    db.enforceWorkflowAdmission job policy
    let (created, db) := db.insertIgnoreWorkflowJob job
    match db.jobOfRun job.workflowRunId with
    | none => .error .noRows
    | some existing => .ok ((existing, created), db)

/-- `AdmitWorkflowJob`: queue entry and UI records in one transaction. -/
def admitWorkflowJob (clock : Time) (job : Option WorkflowJob) (run : Option WorkflowRun)
    (sessions : List (Option Session)) (policy : WorkflowAdmissionPolicy) (db : Database) :
    Except DbError ((WorkflowJob × Bool) × Database) :=
  match job, run with
  | some job, some run => do
    let (result, db) ← db.admitJob clock job policy
    let db ← db.admitWorkflowRun run
    let db ← db.admitSessions sessions
    pure (result, db)
  | _, _ => .error (.text "workflow job and run are required")

/-! ## Claims -/

/-- `status IN ('running', 'cancelling') AND lease_expires_at < now`. -/
def leaseExpired (now : Time) (j : WorkflowJob) : Bool :=
  j.status.leased && match j.leaseExpiresAt with
    | some expires => expires < now
    | none => false

/-- `status = 'pending' OR` the lease has expired. -/
def claimable (now : Time) (j : WorkflowJob) : Bool :=
  j.status = .pending || leaseExpired now j

/-- How many jobs of a scope hold a lease. -/
def leasedCount (db : Database) (ofScope : WorkflowJob → Bool) : Int :=
  ((db.workflowJobs.countP fun k => k.status.leased && ofScope k : Nat) : Int)

/-- The `WHERE` clause of the fair claim. -/
def fairClaimable (policy : WorkflowAdmissionPolicy) (now : Time) (db : Database)
    (j : WorkflowJob) : Bool :=
  leaseExpired now j ||
    (j.status = .pending &&
      db.leasedCount (fun k => k.userId = j.userId) < maxInt policy.maxRunningPerUser 1 &&
      db.leasedCount (fun k => k.projectId = j.projectId) < maxInt policy.maxRunningPerProject 1)

/-- `ORDER BY created_at ASC`. -/
def claimBefore (j k : WorkflowJob) : Bool := j.createdAt < k.createdAt

/-- `ORDER BY (status IN ('running', 'cancelling')) DESC, priority DESC, created_at ASC`. -/
def fairClaimBefore (j k : WorkflowJob) : Bool :=
  if j.status.leased ≠ k.status.leased then j.status.leased
  else if j.priority ≠ k.priority then j.priority > k.priority
  else j.createdAt < k.createdAt

/-- `LIMIT 1` of an ordered selection: one of the rows that no other row precedes; which of
    several is the server's choice `tie`. -/
def selectFirst (before : WorkflowJob → WorkflowJob → Bool) (tie : Nat)
    (rows : List WorkflowJob) : Option WorkflowJob :=
  let first := rows.filter fun j => rows.all fun k => !before k j
  first[tie % first.length]?

/-- The row a claim selects. `locked` are the ids other transactions hold. -/
def selectClaim (now : Time) (policy : WorkflowAdmissionPolicy) (fair : Bool)
    (locked : List String) (tie : Nat) (db : Database) : Option WorkflowJob :=
  let free := db.workflowJobs.filter fun j => !locked.contains j.id
  if fair then selectFirst fairClaimBefore tie (free.filter (fairClaimable policy now db))
  else selectFirst claimBefore tie (free.filter (claimable now))

/-- The assignment of a claim that exhausted its recoveries. -/
def exhaustedRow (now : Time) (j : WorkflowJob) : WorkflowJob :=
  { j with
    status := .failed, leaseOwner := none, leaseExpiresAt := none
    heartbeatAt := some now, completedAt := some now, updatedAt := now
    lastError := some "maximum crash recovery attempts exceeded"
    payloadCiphertext := none, payloadNonce := none }

/-- The assignment of a successful claim. -/
def claimedRow (ownerId : String) (now leaseDuration : Time) (wasRunning : Bool)
    (j : WorkflowJob) : WorkflowJob :=
  { j with
    status := .running, leaseOwner := some ownerId
    leaseExpiresAt := some (now + leaseDuration), heartbeatAt := some now
    recoveryCount := j.recoveryCount + boolInt wasRunning
    startedAt := j.startedAt.or (some now), updatedAt := now }

/-- An update of the job with an id, under a condition: nothing is committed, and no job
    returned, unless it changed one row. -/
def claimUpdate (id : String) (p : WorkflowJob → Bool) (f : WorkflowJob → WorkflowJob)
    (db : Database) : Option WorkflowJob × Database :=
  let sel := fun j : WorkflowJob => decide (j.id = id) && p j
  if rowsAffected sel f db.workflowJobs ≠ 1 then (none, db)
  else
    let db' := { db with workflowJobs := updateWhere sel f db.workflowJobs }
    (db'.jobById id, db')

/-- `claimWorkflowJob`. -/
def claimWorkflowJob (ownerId : String) (now leaseDuration : Time) (maxRecoveries : Int)
    (policy : WorkflowAdmissionPolicy) (fair : Bool) (locked : List String) (tie : Nat)
    (db : Database) : Option WorkflowJob × Database :=
  match db.selectClaim now policy fair locked tie with
  | none => (none, db)
  | some selected =>
    let wasRunning := selected.status.leased
    if wasRunning ∧ selected.cancelRequestedAt = none ∧ selected.recoveryCount ≥ maxRecoveries then
      db.claimUpdate selected.id (leaseExpired now) (exhaustedRow now)
    else
      db.claimUpdate selected.id (claimable now) (claimedRow ownerId now leaseDuration wasRunning)

/-! ## Operations of the lease holder -/

/-- The condition of the operations fenced by the lease. -/
def ownedRunning (jobId ownerId : String) (j : WorkflowJob) : Bool :=
  j.id = jobId && j.leaseOwner = some ownerId && j.status = .running

/-- An update fenced by the lease, followed by `requireOneRow`. The statement runs outside a
    transaction, but an error is reported only when it changed no row. -/
def fencedUpdate (jobId ownerId operation : String) (f : WorkflowJob → WorkflowJob)
    (db : Database) : Except DbError (Unit × Database) := do
  let sel := ownedRunning jobId ownerId
  requireOneRow (rowsAffected sel f db.workflowJobs) operation
  pure ((), { db with workflowJobs := updateWhere sel f db.workflowJobs })

def heartbeatRow (now leaseDuration : Time) (j : WorkflowJob) : WorkflowJob :=
  { j with
    heartbeatAt := some now, leaseExpiresAt := some (now + leaseDuration), updatedAt := now }

/-- `HeartbeatWorkflowJob`. -/
def heartbeatWorkflowJob (jobId ownerId : String) (now leaseDuration : Time) (db : Database) :
    Except DbError (Unit × Database) :=
  let sel := fun j : WorkflowJob => ownedRunning jobId ownerId j && j.cancelRequestedAt.isNone
  if rowsAffected sel (heartbeatRow now leaseDuration) db.workflowJobs = 1 then
    .ok ((), { db with
      workflowJobs := updateWhere sel (heartbeatRow now leaseDuration) db.workflowJobs })
  else
    match db.workflowJobs.find? fun j => j.id = jobId && j.leaseOwner = some ownerId with
    | some j =>
      if j.status = .cancelling ∨ j.cancelRequestedAt.isSome then .error .cancellationRequested
      else .error (.text "workflow job heartbeat did not update an owned running job")
    | none => .error (.text "workflow job heartbeat did not update an owned running job")

def releasedRow (now : Time) (j : WorkflowJob) : WorkflowJob :=
  { j with
    status := .pending, leaseOwner := none, leaseExpiresAt := none
    heartbeatAt := some now, updatedAt := now }

/-- `ReleaseWorkflowJob`. -/
def releaseWorkflowJob (jobId ownerId : String) (now : Time) (db : Database) :
    Except DbError (Unit × Database) :=
  db.fencedUpdate jobId ownerId "release workflow job" (releasedRow now)

def completedRow (now : Time) (j : WorkflowJob) : WorkflowJob :=
  { j with
    status := .completed, leaseOwner := none, leaseExpiresAt := none
    heartbeatAt := some now, completedAt := some now, updatedAt := now
    payloadCiphertext := none, payloadNonce := none }

/-- `CompleteWorkflowJob`. -/
def completeWorkflowJob (jobId ownerId : String) (now : Time) (db : Database) :
    Except DbError (Unit × Database) :=
  db.fencedUpdate jobId ownerId "complete workflow job" (completedRow now)

def failedRow (message : String) (now : Time) (j : WorkflowJob) : WorkflowJob :=
  { j with
    status := .failed, leaseOwner := none, leaseExpiresAt := none
    heartbeatAt := some now, completedAt := some now, updatedAt := now
    lastError := some message, payloadCiphertext := none, payloadNonce := none }

/-- `FailWorkflowJob`. -/
def failWorkflowJob (jobId ownerId message : String) (now : Time) (db : Database) :
    Except DbError (Unit × Database) :=
  db.fencedUpdate jobId ownerId "fail workflow job" (failedRow message now)

/-! ## Cancellation -/

/-- The payload of the event that a cancellation appends. -/
def cancellationPayload (workflowRunId : String) (status : ExecutionStatus) (reason : String)
    (now : Time) : String :=
  Json.marshal (.obj [("message", .str reason), ("status", .str status.text),
    ("timestamp", .int now), ("workflowRunId", .str workflowRunId)])

/-- `updateCancelledWorkflowRecords`: the run, its unfinished sessions and the event log. -/
def updateCancelledWorkflowRecords (workflowRunId : String) (status : ExecutionStatus)
    (reason : String) (now : Time) (terminal : Bool) (db : Database) : Database :=
  let completedAt := if terminal then some now else none
  let db := { db with
    workflowRuns := updateWhere (fun r => r.id = workflowRunId && !r.isDeleted)
      (fun r => { r with
        status, error := reason, completedAt := r.completedAt.or completedAt
        updatedAt := now, version := r.version + 1 }) db.workflowRuns
    sessions := updateWhere
      (fun s => s.workflowRunId = workflowRunId && !s.status.sessionTerminal && !s.isDeleted)
      (fun s => { s with
        status, error := reason, completedAt := s.completedAt.or completedAt
        updatedAt := now, version := s.version + 1 }) db.sessions }
  db.insertWorkflowRunEvent workflowRunId .workflowlog
    (cancellationPayload workflowRunId status reason now) now

/-- The assignment of an accepted cancellation request: a pending job is cancelled at once, a
    leased one is left to its worker. -/
def cancelRequestedRow (wasPending : Bool) (reason : String) (now : Time) (j : WorkflowJob) :
    WorkflowJob :=
  let completedAt := if wasPending then some now else none
  { j with
    status := if wasPending then .cancelled else .cancelling
    cancelRequestedAt := some now, cancelledAt := completedAt, cancelReason := some reason
    completedAt := j.completedAt.or completedAt, updatedAt := now
    payloadCiphertext := if wasPending then none else j.payloadCiphertext
    payloadNonce := if wasPending then none else j.payloadNonce }

/-- `RequestWorkflowJobCancellation`: the job and whether the request changed it. -/
def requestWorkflowJobCancellation (workflowRunId projectId reason : String) (now : Time)
    (db : Database) : Except DbError ((WorkflowJob × Bool) × Database) :=
  match db.jobOfRun workflowRunId with
  | none => .error .noRows
  | some job =>
    if job.projectId ≠ projectId then .error .noRows
    else if job.status.terminal then .ok ((job, false), db)
    else if job.status = .cancelling then .ok ((job, false), db)
    else
      let reason := if reason = "" then "cancelled by user" else reason
      let wasPending : Bool := job.status = .pending
      let db := { db with
        workflowJobs := updateWhere (fun j => j.id = job.id)
          (cancelRequestedRow wasPending reason now) db.workflowJobs }
      let status := if wasPending then ExecutionStatus.cancelled else .cancelling
      let db := db.updateCancelledWorkflowRecords workflowRunId status reason now wasPending
      match db.jobById job.id with
      | none => .error .noRows
      | some updated => .ok ((updated, true), db)

def cancelledRow (now : Time) (j : WorkflowJob) : WorkflowJob :=
  { j with
    status := .cancelled, leaseOwner := none, leaseExpiresAt := none
    heartbeatAt := some now, cancelledAt := some now, completedAt := some now, updatedAt := now
    payloadCiphertext := none, payloadNonce := none }

/-- `CancelWorkflowJob`: the lease holder finishes a cancellation. -/
def cancelWorkflowJob (jobId ownerId : String) (now : Time) (db : Database) :
    Except DbError (Unit × Database) := do
  let sel := fun j : WorkflowJob =>
    decide (j.id = jobId) && decide (j.leaseOwner = some ownerId) && j.status.leased
  match db.workflowJobs.find? sel with
  | none => .error .noRows
  | some job =>
    requireOneRow (rowsAffected sel (cancelledRow now) db.workflowJobs) "cancel workflow job"
    let reason := job.cancelReason.getD "cancelled by user"
    let db := { db with workflowJobs := updateWhere sel (cancelledRow now) db.workflowJobs }
    pure ((), db.updateCancelledWorkflowRecords job.workflowRunId .cancelled reason now true)

end Database

end TokyoTester
