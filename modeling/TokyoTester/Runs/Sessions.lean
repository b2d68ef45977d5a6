import TokyoTester.Runs.Calls

set_option autoImplicit false

/-! # The persisted state of a scenario (`session_failover.go`)

While a scenario runs, its row in `sessions` is read, changed and written back by separate calls
of the store, so two of these updates can overlap. Each function below takes whether its calls
are bound to the context of the execution or detached from it. -/

namespace TokyoTester

/-- What the handler is configured with. -/
structure Handler where
  ownerId : String := ""
  leaseDuration : Time := 0
deriving DecidableEq, Repr, Inhabited

/-- `dto.ExecutionContextDTO`: the scenario run a scenario is executed for. -/
structure ExecutionContext where
  sessionId : String := ""
  projectId : String := ""
  userId : String := ""
  clientId : String := ""
  workflowId : String := ""
  workflowRunId : String := ""
  scenarioId : String := ""
  scenarioName : String := ""
deriving DecidableEq, Repr, Inhabited

/-- `firstNonEmpty`. -/
def firstNonEmpty : List String → String
  | [] => ""
  | value :: rest => if value ≠ "" then value else firstNonEmpty rest

namespace Handler

variable (h : Handler)

/-! ## Updates of the row -/

/-- The attempts of `updatePersistedSession`: read, change, write, and again when the write was
    answered with a version conflict. -/
def updateAttempts (detached : Bool) (sessionId : String)
    (mutate : Session → Task (Except String Session)) :
    Nat → Task (Except String (Option Session))
  | 0 => pure (.error ("failed to update session " ++ sessionId ++
      " due to repeated version conflicts"))
  | attempts + 1 => do
    match ← Task.store detached (.getSession sessionId) with
    | .error e => pure (.error e.message)
    | .ok current =>
      match ← mutate current with
      | .error e => pure (.error e)
      | .ok next =>
        let now ← Task.now
        let next := { next with version := current.version + 1, updatedAt := now }
        match ← Task.store detached (.upsertSession next) with
        | .ok _ => pure (.ok (some next))
        | .error e =>
          if Text.contains e.message "version conflict" then
            updateAttempts detached sessionId mutate attempts
          else pure (.error e.message)

/-- `updatePersistedSession`. -/
def updatePersistedSession (detached : Bool) (sessionId : String)
    (mutate : Session → Task (Except String Session)) : Task (Except String (Option Session)) :=
  if sessionId = "" then pure (.ok none) else updateAttempts detached sessionId mutate 3

/-- A change of the row that reads the clock and cannot fail. -/
def timed (f : Time → Session → Session) (current : Session) : Task (Except String Session) := do
  let now ← Task.now
  pure (.ok (f now current))

/-- Whether another runner holds the row at a time. -/
def leasedElsewhere (now : Time) (session : Session) : Bool :=
  session.ownerId ≠ "" && session.ownerId ≠ h.ownerId && session.leaseExpiresAt.any (now < ·)

/-- The error for a row that another runner holds. -/
def leaseRefusal (session : Session) : String :=
  "session is currently leased by " ++ session.ownerId ++ " until " ++
    (session.leaseExpiresAt.map Text.rfc3339).getD ""

/-- The change that `ensureSessionLease` makes. -/
def takeLease (now : Time) (current : Session) : Task (Except String Session) :=
  if h.leasedElsewhere now current then pure (.error (leaseRefusal current))
  else
    pure (.ok { current with
      ownerId := h.ownerId, heartbeatAt := some now, leaseExpiresAt := some (now + h.leaseDuration)
      phase := if current.phase = .other "" then .created else current.phase })

/-- `ensureSessionLease`. -/
def ensureSessionLease (persisted : Option Session) : Task (Except String (Option Session)) :=
  match persisted with
  | none => pure (.ok none)
  | some persisted => do
    let now ← Task.now
    if h.leasedElsewhere now persisted then pure (.error (leaseRefusal persisted))
    else updatePersistedSession false persisted.id (h.takeLease now)

/-- `releaseSessionLease`. -/
def releaseSessionLease (detached : Bool) (persistedId : String) : Task Unit := do
  let _ ← updatePersistedSession detached persistedId (timed fun now current =>
    { current with ownerId := "", heartbeatAt := some now, leaseExpiresAt := none })

/-- The change that a tick of `heartbeatSession` makes. -/
def heartbeatSession (now : Time) (current : Session) : Task (Except String Session) :=
  if current.status ≠ .running ∨ current.ownerId ≠ h.ownerId then
    pure (.error "session lease is no longer owned by this runner")
  else
    pure (.ok { current with
      heartbeatAt := some now, leaseExpiresAt := some (now + h.leaseDuration) })

/-- A tick of `heartbeatSession`. -/
def heartbeatTick (persistedId : String) : Task (Except String (Option Session)) := do
  let now ← Task.now
  updatePersistedSession false persistedId (h.heartbeatSession now)

/-- `persistProvisionedState`. -/
def persistProvisionedState (persistedId : String) (runtime : ProvisionedRuntime) : Task Unit := do
  let _ ← updatePersistedSession false persistedId (timed fun now current =>
    { current with
      status := .running, phase := .provisioned, containerIds := runtime.containerIds
      runtimeSnapshot := runtime.runtimeSnapshot, heartbeatAt := some now
      leaseExpiresAt := some (now + h.leaseDuration) })

/-- `persistSessionFailure`. -/
def persistSessionFailure (persistedId error : String) (phase : SessionPhase) : Task Unit := do
  let _ ← updatePersistedSession false persistedId (timed fun now current =>
    { current with
      status := .failed, phase, error, completedAt := some now, heartbeatAt := some now })

/-- `persistInterruptedSession`. -/
def persistInterruptedSession (persistedId : String) : Task Unit := do
  let _ ← updatePersistedSession true persistedId (timed fun now current =>
    { current with
      status := .pending, error := "", completedAt := none, heartbeatAt := some now })

/-- `ensureTestPlan`: the error, if any. -/
def ensureTestPlan (persistedId : String) (tests : List TestConfig) : Task (Option String) := do
  let updated ← updatePersistedSession false persistedId (timed fun now current =>
    { current with
      testPlan := (Codec.slice TestConfig.codec).marshal tests, phase := .runningTests
      heartbeatAt := some now, leaseExpiresAt := some (now + h.leaseDuration) })
  match updated with
  | .ok _ => pure none
  | .error e => pure (some e)

/-- `persistCheckpoint`, whose errors every caller ignores. -/
def persistCheckpoint (detached : Bool) (persistedId : String) (checkpointIndex : Int)
    (phase : SessionPhase) (finalStatus : Option ExecutionStatus) (finalSummary : Option Json) :
    Task Unit := do
  let _ ← updatePersistedSession detached persistedId (timed fun now current =>
    { current with
      checkpointIndex, phase, heartbeatAt := some now
      leaseExpiresAt := some (now + h.leaseDuration)
      status := finalStatus.getD current.status
      completedAt := if finalStatus.isSome then some now else current.completedAt
      result := (finalSummary.map Json.marshal).getD current.result })

/-! ## Looking the row up -/

/-- The last lookup of `resolvePersistedSession`. -/
def resolveByExecution (execution : ExecutionContext) : Task (Option Session) :=
  if execution.workflowRunId = "" ∨ execution.scenarioId = "" then pure none
  else do
    match ← Task.store false
        (.findSessionByExecution execution.workflowRunId execution.scenarioId) with
    | .ok session => pure (some session)
    | .error _ => pure none

/-- The lookups of `resolvePersistedSession` by the execution. -/
def resolveBySession (execution : ExecutionContext) : Task (Option Session) :=
  if execution.sessionId = "" then resolveByExecution execution
  else do
    match ← Task.store false (.getSession execution.sessionId) with
    | .ok session => pure (some session)
    | .error _ => resolveByExecution execution

/-- `resolvePersistedSession`. -/
def resolvePersistedSession (backendSessionId : String) (execution : ExecutionContext) :
    Task (Option Session) :=
  if backendSessionId = "" then resolveBySession execution
  else do
    match ← Task.store false (.getSessionByBackendSessionId backendSessionId) with
    | .ok session => pure (some session)
    | .error _ => resolveBySession execution

/-- The row that `buildPersistedSession` creates when there is none. -/
def newSession (now : Time) (backendSessionId : String) (execution : ExecutionContext)
    (serviceGraph : String) : Session where
  id := if execution.sessionId = "" then backendSessionId else execution.sessionId
  projectId := execution.projectId
  workflowRunId := execution.workflowRunId
  workflowId := execution.workflowId
  scenarioId := execution.scenarioId
  scenarioName := execution.scenarioName
  backendSessionId := backendSessionId
  status := .running
  result := ""
  containerIds := ""
  logs := ""
  error := ""
  startedAt := some now
  completedAt := none
  ownerId := h.ownerId
  leaseExpiresAt := some (now + h.leaseDuration)
  heartbeatAt := some now
  phase := .provisioning
  checkpointIndex := 0
  serviceGraph := serviceGraph
  testPlan := ""
  runtimeSnapshot := ""
  version := 1
  createdAt := now
  updatedAt := now
  clientId := execution.clientId
  userId := execution.userId
  isDeleted := false

/-- What `buildPersistedSession` makes of the row that is there. -/
def takenSession (now : Time) (backendSessionId : String) (execution : ExecutionContext)
    (serviceGraph : String) (current : Session) : Session :=
  { current with
    projectId := firstNonEmpty [current.projectId, execution.projectId]
    workflowRunId := firstNonEmpty [current.workflowRunId, execution.workflowRunId]
    workflowId := firstNonEmpty [current.workflowId, execution.workflowId]
    scenarioId := firstNonEmpty [current.scenarioId, execution.scenarioId]
    scenarioName := firstNonEmpty [current.scenarioName, execution.scenarioName]
    clientId := firstNonEmpty [current.clientId, execution.clientId]
    userId := firstNonEmpty [current.userId, execution.userId]
    backendSessionId
    status := .running
    startedAt := current.startedAt.or (some now)
    ownerId := h.ownerId
    leaseExpiresAt := some (now + h.leaseDuration)
    heartbeatAt := some now
    phase := .provisioning
    serviceGraph
    checkpointIndex := max current.checkpointIndex 0 }

/-- `buildPersistedSession`: the row, if there is one, and the error, if any. A row whose creation
    failed is returned with the error. -/
def buildPersistedSession (backendSessionId : String) (execution : ExecutionContext)
    (services : List ServiceConfig) : Task (Option Session × Option String) := do
  let serviceGraph := (Codec.slice ServiceConfig.codec).marshal services
  let now ← Task.now
  match ← resolvePersistedSession backendSessionId execution with
  | none =>
    let persisted := h.newSession now backendSessionId execution serviceGraph
    match ← Task.store false (.upsertSession persisted) with
    | .ok _ => pure (some persisted, none)
    | .error e => pure (some persisted, some e.message)
  | some persisted =>
    match ← updatePersistedSession false persisted.id fun current =>
        pure (.ok (h.takenSession now backendSessionId execution serviceGraph current)) with
    | .ok updated => pure (updated, none)
    | .error e => pure (none, some e)

/-! ## Test results -/

/-- A stored test result as a test result. -/
def restoreResult (row : TestResult) : Dto.TestResult :=
  let stored := ((PersistedTestResult.codec.unmarshal row.resultData).getD {}).result
  { stored with
    name := firstNonEmpty [stored.name, row.testName]
    type := firstNonEmpty [stored.type, row.testType]
    passed := row.status = .passed }

/-- `loadPersistedResults`: the results by test name, the last row of a name counting. -/
def loadPersistedResults (persisted : Option Session) :
    Task (Except String (List (String × Dto.TestResult))) :=
  match persisted with
  | none => pure (.ok [])
  | some persisted => do
    match ← Task.store false (.listTestResults persisted.id) with
    | .error e => pure (.error e.message)
    | .ok rows => pure (.ok (rows.reverse.map fun row => (row.testName, restoreResult row)))

/-- The results of the ordered tests. -/
def orderedResults (byName : List (String × Dto.TestResult)) (tests : List TestConfig) :
    List Dto.TestResult := tests.filterMap fun t => byName.lookup t.name

/-- The id of a test's row. -/
def testResultId (persisted : Session) (testName : String) : String :=
  if persisted.workflowRunId ≠ "" ∧ persisted.scenarioId ≠ "" then
    persisted.workflowRunId ++ "_" ++ persisted.scenarioId ++ "_" ++ testName
  else persisted.id ++ "_" ++ testName

/-- What later tests may refer to of a result (`interpolationPayloadForResult`). -/
def interpolationPayload (result : Dto.TestResult) : AnyValue :=
  .ofStrings (GoMap.ofList [("status", if result.passed then "passed" else "failed"),
    ("name", result.name), ("type", result.type)])

/-- The row that `persistTestResult` writes. -/
def testResultRow (persisted : Session) (result : Dto.TestResult) (executedAt : Time) :
    TestResult where
  id := testResultId persisted result.name
  projectId := persisted.projectId
  sessionId := persisted.id
  workflowRunId := persisted.workflowRunId
  workflowId := persisted.workflowId
  scenarioId := persisted.scenarioId
  scenarioName := persisted.scenarioName
  testName := result.name
  testType := result.type
  status := if result.passed then .passed else .failed
  resultData := PersistedTestResult.codec.marshal
    { result, interpolationData := some (interpolationPayload result) }
  durationMs := result.durationMs.toInt
  executedAt := executedAt
  createdAt := executedAt
  updatedAt := executedAt
  clientId := persisted.clientId
  userId := persisted.userId
  isDeleted := false

/-- `persistTestResult`, whose error its caller ignores. -/
def persistTestResult (persisted : Session) (result : Dto.TestResult) : Task Unit := do
  let executedAt ← Task.now
  let _ ← Task.store false (.upsertTestResult (testResultRow persisted result executedAt))

end Handler

end TokyoTester
