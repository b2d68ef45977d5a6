import TokyoTester.Runs.Scenario

set_option autoImplicit false

/-! # Executing a job (`workflow_service.go`)

The goroutines of `executeJob`: the one that prepares and finishes the run, and one for each
scenario. They share the context of the execution; every write of a row's status is a read of the
row followed by a write of all its columns. -/

namespace TokyoTester

/-! ## The payload -/

/-- An AEAD under a key (`cipher.AEAD`). -/
structure PayloadCipher where
  sealed : Nonce → Bytes → Bytes
  opened : Nonce → Bytes → Option Bytes

/-- Why a stored payload cannot be read. -/
inductive PayloadError where
  /-- `Open` panics on a nonce of the wrong length. -/
  | panicked
  | text (message : String)
deriving DecidableEq, Repr, Inhabited

namespace PayloadCipher

/-- `Decrypt`; a column that is `NULL` is read as no bytes. -/
def decrypt (c : PayloadCipher) (ciphertext nonce : Option Bytes) : Except PayloadError Bytes :=
  let nonce := nonce.getD []
  if h : nonce.length = 12 then
    match c.opened ⟨nonce, h⟩ (ciphertext.getD []) with
    | some plaintext => .ok plaintext
    | none => .error (.text "decrypt workflow payload: cipher: message authentication failed")
  else .error .panicked

end PayloadCipher

/-- The bytes of a text. -/
def utf8 (s : String) : Bytes := s.toByteArray.toList

/-- The text of some bytes. -/
def ofUtf8 (b : Bytes) : Option String := String.fromUTF8? (ByteArray.mk b.toArray)

namespace Request

/-- `json.Marshal` of a request. -/
def payload (r : Request) : Bytes := utf8 (Request.codec.marshal r)

/-- `json.Unmarshal` of a request. -/
def ofPayload (payload : Bytes) : Except PayloadError Request :=
  match (ofUtf8 payload).bind Request.codec.unmarshal with
  | some r => .ok r
  | none => .error (.text "invalid character in JSON payload")

end Request

/-! ## The service -/

/-- `WorkflowWorkerConfig`. -/
structure WorkflowWorkerConfig where
  scenarioConcurrency : Nat := 1
  leaseDuration : Time := 60000
  maxRecoveries : Int := 3
  policy : WorkflowAdmissionPolicy := {}
deriving DecidableEq, Repr, Inhabited

/-- `WorkflowService`: what its processes share, and the handler of the process that a worker
    belongs to. -/
structure WorkflowService where
  cipher : PayloadCipher
  hashPayload : Bytes → String
  handler : String → Handler
  config : WorkflowWorkerConfig := {}

/-- The request that a job carries. -/
def WorkflowService.decodeJob (S : WorkflowService) (job : WorkflowJob) :
    Except PayloadError Request := do
  let payload ← S.cipher.decrypt job.payloadCiphertext job.payloadNonce
  Request.ofPayload payload

namespace Execution

/-! ## Events -/

/-- `boundedWorkflowLogMessage`. -/
def boundedWorkflowLogMessage (message : String) : String :=
  if message.utf8ByteSize ≤ 16384 then message
  else Text.takeBytes 16384 message ++ "… [truncated]"

/-- An instant in nanoseconds. -/
def unixNano (now : Time) : Json := .int (now * 1000000)

/-- `emitLog`; the result is an error or a value. -/
def emitLog (request : Request) (message status : String) (scenario : Option RunScenario)
    (result : Option (Except String Json)) : Task Unit := do
  let message := boundedWorkflowLogMessage message
  let now ← Task.now
  let payload := jsonMap ([("workflowRunId", .str request.workflowRunId),
      ("projectId", .str request.projectId), ("workflowId", .str request.workflowId),
      ("message", .str message), ("status", .str status), ("timestamp", .int now),
      ("sequence", unixNano now)] ++
    (match scenario with
      | some s => [("scenarioId", .str s.id), ("scenarioName", .str s.name)]
      | none => []) ++
    (match result with
      | some (.error e) => [("error", .str e)]
      | some (.ok value) => [("result", value)]
      | none => []))
  let _ ← Task.store false (.appendWorkflowLogEvent request.workflowRunId (Json.marshal payload)
    now message ((scenario.map (·.scenarioRunId)).getD ""))

/-- `errorValue`. -/
def errorValue (value : String) : Option (Except String Json) :=
  if value = "" then none else some (.error value)

/-- The optional members of an activity's event. -/
def activityMembers (activity : Activity) : List (String × Json) :=
  (if activity.serviceName = "" then [] else [("serviceName", .str activity.serviceName)]) ++
  (if activity.serviceId = "" then [] else [("serviceId", .str activity.serviceId)]) ++
  (if activity.serviceNames.isEmpty then []
    else [("serviceNames", (Codec.slice Codec.string).encode activity.serviceNames)]) ++
  (if activity.testId = "" then [] else [("testId", .str activity.testId)]) ++
  (if activity.testName = "" then [] else [("testName", .str activity.testName)]) ++
  (if activity.attempt = 0 then [] else [("attempt", .int activity.attempt)]) ++
  (if activity.maxAttempts = 0 then [] else [("maxAttempts", .int activity.maxAttempts)]) ++
  (if activity.retryReason = "" then [] else [("retryReason", .str activity.retryReason)]) ++
  (match activity.diagnostic with
    | some d => [("diagnostic", Diagnostic.codec.encode d)]
    | none => [])

/-- `emitActivity`. -/
def emitActivity (request : Request) (scenario : RunScenario) (activity : Activity) :
    Task Unit := do
  let message := boundedWorkflowLogMessage activity.message
  let now ← Task.now
  let payload := jsonMap ([("workflowRunId", .str request.workflowRunId),
      ("projectId", .str request.projectId), ("workflowId", .str request.workflowId),
      ("scenarioId", .str scenario.id), ("scenarioName", .str scenario.name),
      ("message", .str message), ("status", .str "running"), ("stage", .str activity.stage),
      ("kind", .str activity.kind), ("activityStatus", .str activity.status),
      ("timestamp", .int now), ("sequence", unixNano now)] ++ activityMembers activity)
  let _ ← Task.store false (.appendWorkflowLogEvent request.workflowRunId (Json.marshal payload)
    now message scenario.scenarioRunId)

/-- The reporter of a scenario: its diagnostics name the scenario. -/
def scenarioReporter (request : Request) (scenario : RunScenario) (activity : Activity) :
    Task Unit :=
  emitActivity request scenario { activity with
    diagnostic := activity.diagnostic.map fun d =>
      if d.scenarioId = "" then { d with scenarioId := scenario.id } else d }

/-- The event of a test result. -/
def testResultEvent (request : Request) (scenario : RunScenario) (now : Time) (index : Nat)
    (result : Dto.TestResult) : Json :=
  jsonMap [("testResultId", .str (request.workflowRunId ++ "_" ++ scenario.id ++ "_" ++
      result.name)),
    ("testName", .str result.name), ("testType", .str result.type),
    ("status", .str (if result.passed then "passed" else "failed")),
    ("resultData", Dto.TestResult.codec.encode result),
    ("durationMs", .int result.durationMs.toInt),
    ("executedAt", .str (Text.rfc3339Nano now)), ("action", .str "update"),
    ("containerLogs", if result.containerLogs.entries.isEmpty then .null
      else (Codec.map Codec.string).encode result.containerLogs),
    ("diagnostic", match result.diagnostic with
      | some d => Diagnostic.codec.encode d
      | none => .null),
    ("sequence", .int index)]

/-- `emitTestResults`. -/
def emitTestResults (request : Request) (scenario : RunScenario) (response : ScenarioResponse) :
    Task Unit := do
  let now ← Task.now
  let bulkId ← Task.newId
  let results := response.results.getD []
  let payload := jsonMap [("workflowRunId", .str request.workflowRunId),
    ("projectId", .str request.projectId), ("workflowId", .str request.workflowId),
    ("scenarioId", .str scenario.id), ("scenarioName", .str scenario.name),
    ("backendSessionId", .str response.sessionId), ("bulkId", .str bulkId),
    ("timestamp", .int now),
    ("results", .arr (results.zipIdx.map fun r =>
      testResultEvent request scenario now r.2 r.1))]
  let createdAt ← Task.now
  let _ ← Task.store false (.appendWorkflowRunEvent request.workflowRunId .testresult
    (Json.marshal payload) createdAt)

/-! ## Rows -/

/-- The row that `updateRun` writes. -/
def updatedRun (now : Time) (status : ExecutionStatus) (result : Option Json) (message : String)
    (run : WorkflowRun) : WorkflowRun :=
  { run with
    status, updatedAt := now, version := run.version + 1
    summary := (result.map Json.marshal).getD run.summary
    error := if message = "" then run.error else message
    completedAt := if status ≠ .pending ∧ status ≠ .running then some now else run.completedAt
    startedAt := run.startedAt.or (some now) }

/-- `updateRun`, without the logs that no caller passes: the error, if any. -/
def updateRun (request : Request) (status : ExecutionStatus) (result : Option Json)
    (message : String) : Task (Option String) := do
  match ← Task.store false (.getWorkflowRun request.workflowRunId) with
  | .error e => pure (some e.message)
  | .ok run =>
    let now ← Task.now
    match ← Task.store false (.upsertWorkflowRun (updatedRun now status result message run)) with
    | .ok _ => pure none
    | .error e => pure (some e.message)

/-- The phase that goes with a final status. -/
def finalPhase : ExecutionStatus → Option SessionPhase
  | .completed => some .completed
  | .cleanupFailed => some .cleanupFailed
  | .failed => some .failed
  | _ => none

/-- The row that `updateScenario` writes. -/
def updatedSession (now : Time) (status : ExecutionStatus) (backendId message : String)
    (result : Option ScenarioResponse) (session : Session) : Session :=
  { session with
    status, updatedAt := now, version := session.version + 1
    backendSessionId := if backendId = "" then session.backendSessionId else backendId
    error := if message = "" then session.error else message
    result := (result.map ScenarioResponse.codec.marshal).getD session.result
    startedAt := session.startedAt.or (some now)
    completedAt := if (finalPhase status).isSome then some now else session.completedAt
    phase := (finalPhase status).getD session.phase }

/-- `updateScenario`: the error, if any. -/
def updateScenario (scenario : RunScenario) (status : ExecutionStatus)
    (backendId message : String) (result : Option ScenarioResponse) : Task (Option String) := do
  match ← Task.store false (.getSession scenario.scenarioRunId) with
  | .error e => pure (some e.message)
  | .ok session =>
    let now ← Task.now
    match ← Task.store false
        (.upsertSession (updatedSession now status backendId message result session)) with
    | .ok _ => pure none
    | .error e => pure (some e.message)

/-! ## Failing -/

/-- A run that failed without an outcome of its scenarios. -/
def failedRun (now : Time) (error : String) (run : WorkflowRun) : WorkflowRun :=
  { run with
    status := .failed, error, updatedAt := now, completedAt := some now
    version := run.version + 1 }

/-- The part that `failJob` and `reconcileExhaustedJob` share: the run is marked as failed, and an
    event tells why. -/
def failRun (job : WorkflowJob) (now : Time) (error message : String) (diagnostic : Diagnostic) :
    Task Unit := do
  match ← Task.store false (.getWorkflowRun job.workflowRunId) with
  | .error _ => pure ()
  | .ok run =>
    let _ ← Task.store false (.upsertWorkflowRun (failedRun now error run))
  let payload := jsonMap [("workflowRunId", .str job.workflowRunId),
    ("projectId", .str job.projectId), ("message", .str message), ("status", .str "failed"),
    ("error", .str error), ("timestamp", .int now), ("sequence", unixNano now),
    ("stage", .str "aggregation"), ("kind", .str "diagnostic"), ("activityStatus", .str "failed"),
    ("diagnostic", Diagnostic.codec.encode diagnostic)]
  let createdAt ← Task.now
  let _ ← Task.store false (.appendWorkflowLogEvent job.workflowRunId (Json.marshal payload)
    createdAt message "")

/-- `failJob`. -/
def failJob (owner : String) (job : WorkflowJob) (error : String) : Task Unit := do
  let now ← Task.now
  let _ ← Task.store false (.failWorkflowJob job.id owner error now)
  failRun job now error ("Workflow run failed: " ++ error)
    (buildExecutionDiagnostic "aggregation" (internalError ("workflow worker failed: " ++ error))
      "Tokyo Tester could not continue this workflow run." "" "" "" [])

/-- `reconcileExhaustedJob`. -/
def reconcileExhaustedJob (job : WorkflowJob) : Task Unit := do
  let now ← Task.now
  let error := job.lastError.getD ""
  failRun job now error "Workflow run failed after repeated runner interruptions"
    (buildExecutionDiagnostic "aggregation" (internalError error)
      "Tokyo Tester could not recover this workflow run after repeated interruptions."
      "" "" "" [])

/-! ## The main goroutine -/

/-- The start of `executeJob` once the payload is read: whether the scenarios are to run. -/
def prepareJob (owner : String) (job : WorkflowJob) (request : Request) : Task Bool := do
  match ← updateRun request .running none "" with
  | some e =>
    failJob owner job ("persist running workflow state: " ++ e)
    pure false
  | none =>
    emitLog request ("Starting workflow run: " ++ request.workflowName) "running" none none
    pure true

/-- The status that the results of the scenarios give a run. -/
def runStatus (results : List ScenarioResponse) : ExecutionStatus :=
  if results.any (·.cleanupFailed) then .cleanupFailed
  else if results.all (·.success) then .completed
  else if results.any (·.success) then .partialFailed
  else .failed

/-- `mapScenarioStatus` and `mapWorkflowStatus`. -/
def mapStatus : ExecutionStatus → String
  | .cleanupFailed => "cleanup_failed"
  | .completed => "completed"
  | _ => "failed"

/-- The sum of a count over the results. -/
def sumOf (f : Dto.TestSummary → Int64) (results : List ScenarioResponse) : Json :=
  .int ((results.map fun r : ScenarioResponse => f r.summary).foldl (· + ·) 0).toInt

/-- The summary that a finished run stores. -/
def resultPayload (scenarios : List RunScenario) (results : List ScenarioResponse) : Json :=
  jsonMap [("success", .bool (results.all (·.success))),
    ("status", .str (runStatus results).text), ("totalScenarios", .int results.length),
    ("passedScenarios", .int (results.countP (·.success))),
    ("failedScenarios", .int (results.countP fun r => !r.success)),
    ("totalTests", sumOf (·.total) results), ("passedTests", sumOf (·.passed) results),
    ("failedTests", sumOf (·.failed) results), ("retriedTests", sumOf (·.retried) results),
    ("scenarioResults", scenarioSnapshots scenarios results),
    ("diagnostics", (Codec.slice Diagnostic.codec).encode (workflowDiagnostics results))]

/-- The end of `executeJob` when its context is still live. -/
def completeJob (owner : String) (job : WorkflowJob) (request : Request)
    (results : List ScenarioResponse) : Task Unit := do
  let payload := resultPayload request.scenarios results
  match ← updateRun request (runStatus results) (some payload)
      (workflowErrors request.scenarios results) with
  | some e => failJob owner job ("persist terminal workflow state: " ++ e)
  | none =>
    emitLog request ("Workflow run complete: " ++ Text.decimal (results.countP (·.success)) ++ "/" ++
      Text.decimal results.length ++ " scenarios passed") (mapStatus (runStatus results)) none
      (some (.ok payload))
    let now ← Task.now
    let _ ← Task.store false (.completeWorkflowJob job.id owner now)

/-- The end of `executeJob`, after all scenarios. -/
def finishJob (owner : String) (job : WorkflowJob) (request : Request)
    (results : List ScenarioResponse) : Task Unit := do
  match ← Task.contextCause with
  | some .cancellationRequested =>
    let now ← Task.now
    let _ ← Task.store true (.cancelWorkflowJob job.id owner now)
  | some _ =>
    let now ← Task.now
    let _ ← Task.store true (.releaseWorkflowJob job.id owner now)
  | none => completeJob owner job request results

/-- The end of a claim of a job whose cancellation was requested. -/
def finalizeCancellation (owner : String) (job : WorkflowJob) : Task Unit := do
  let now ← Task.now
  let _ ← Task.store false (.cancelWorkflowJob job.id owner now)

/-! ## The goroutine of a scenario -/

/-- `isTerminalScenarioCheckpoint`. -/
def isTerminalScenarioCheckpoint (persisted : Session) : Bool :=
  (persisted.status = .completed && persisted.phase = .completed) ||
    (persisted.status = .failed && persisted.phase = .failed)

/-- A stored test result as `completedScenario` reads it. -/
def checkpointResult (row : TestResult) : Dto.TestResult :=
  { (Dto.TestResult.codec.unmarshal row.resultData).getD {} with
    name := row.testName, type := row.testType, passed := row.status = .passed }

/-- The response of a scenario that is restored from its row and its results. -/
def checkpointResponse (scenario : RunScenario) (persisted : Session) (rows : List TestResult) :
    ScenarioResponse :=
  let byName := rows.reverse.map fun row => (row.testName, checkpointResult row)
  let results := scenario.tests.filterMap fun t => byName.lookup t.name
  { scenarioName := scenario.name, sessionId := persisted.backendSessionId
    success := persisted.status = .completed, error := persisted.error
    results := if results.isEmpty then none else some results
    summary := summarizeTestResults results scenario.tests.length
    diagnostics := if persisted.result = "" then []
      else ((ScenarioResponse.codec.unmarshal persisted.result).map (·.diagnostics)).getD [] }

/-- `completedScenario`. -/
def completedScenario (scenario : RunScenario) : Task (Option ScenarioResponse) := do
  match ← Task.store false (.getSession scenario.scenarioRunId) with
  | .error _ => pure none
  | .ok persisted =>
    if isTerminalScenarioCheckpoint persisted then
      match ← Task.store false (.listTestResults scenario.scenarioRunId) with
      | .error _ => pure none
      | .ok rows => pure (some (checkpointResponse scenario persisted rows))
    else pure none

/-- The start of a scenario: its response when it ends here. -/
def startScenario (request : Request) (scenario : RunScenario) :
    Task (Option ScenarioResponse) := do
  match ← completedScenario scenario with
  | some checkpoint =>
    emitLog request ("Restored completed scenario " ++ Text.quote scenario.name ++
      " from its checkpoint") (mapScenarioStatusValue checkpoint.success) (some scenario)
      (errorValue checkpoint.error)
    pure (some checkpoint)
  | none =>
    match ← updateScenario scenario .running "" "" none with
    | some e =>
      pure (some { scenarioName := scenario.name
                   error := "failed to persist running scenario state: " ++ e
                   summary := { total := Int64.ofNat scenario.tests.length } })
    | none =>
      emitLog request ("Running scenario " ++ Text.quote scenario.name) "running" (some scenario)
        none
      pure none

/-- The execution context of a scenario. -/
def executionContext (request : Request) (scenario : RunScenario) : ExecutionContext where
  sessionId := scenario.scenarioRunId
  projectId := firstNonEmpty [scenario.projectId, request.projectId]
  userId := firstNonEmpty [scenario.userId, request.userId, "demo-user"]
  clientId := firstNonEmpty [scenario.clientId, request.clientId]
  workflowId := request.workflowId
  workflowRunId := request.workflowRunId
  scenarioId := scenario.id
  scenarioName := scenario.name

/-- The middle of a scenario. -/
def runScenario (h : Handler) (request : Request) (bundle : Bundle) (scenario : RunScenario)
    (bundleScenario : BundleScenario) : Task ScenarioResponse :=
  h.runWorkflowBundleScenarioForRun (scenarioReporter request scenario) bundle bundleScenario
    (executionContext request scenario)

/-- The status that a response gives its scenario. -/
def scenarioStatus (r : ScenarioResponse) : ExecutionStatus :=
  if r.cleanupFailed then .cleanupFailed else if r.success then .completed else .failed

/-- The end of a scenario: its result. -/
def reportScenario (request : Request) (scenario : RunScenario) (response : ScenarioResponse) :
    Task ScenarioResponse := do
  let result := attachScenarioToDiagnostics response scenario.id
  match ← Task.contextCause with
  | some _ => pure result
  | none =>
    let status := scenarioStatus result
    let result ← match ← updateScenario scenario status result.sessionId result.error
        (some result) with
      | none => pure result
      | some e => pure { result with
          success := false
          error := (if result.error = "" then "" else result.error ++ "; ") ++
            "failed to persist scenario state: " ++ e }
    emitTestResults request scenario result
    emitLog request ("Scenario " ++ Text.quote scenario.name ++ " " ++ status.text)
      (mapStatus status) (some scenario) (errorValue result.error)
    pure result

end Execution

end TokyoTester
