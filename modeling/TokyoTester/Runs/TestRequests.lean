import TokyoTester.Runs.Scenario
import TokyoTester.Tests.Retry

set_option autoImplicit false

/-! # Running tests on a session (`handlers.go`)

`RunTests` runs a list of tests on a session. A session that is not in the runner's memory is
recovered from its row: its services are provisioned anew. What was stored for the row before, its
checkpoint and its results, is applied to the tests of the request. -/

namespace TokyoTester

/-! ## Requests (`pkg/dto/tests.go`) -/

/-- `dto.RetryPolicyDTO`. -/
structure RetryPolicyDto where
  mode : String := ""
  idempotencyConfirmed : Bool := false
deriving DecidableEq, Repr, Inhabited

/-- `dto.TestDTO`. -/
structure TestDto where
  name : String := ""
  type : String := ""
  dependsOn : List String := []
  retryPolicy : Option RetryPolicyDto := none
  config : Option Document := none
deriving Inhabited

/-- `dto.RunTestRequest`. Without an execution context its fields are empty. -/
structure RunTestRequest where
  tests : List TestDto := []
  executionContext : ExecutionContext := {}
deriving Inhabited

/-- `ToConfig`. -/
def TestDto.toConfig (t : TestDto) : TestConfig where
  name := t.name
  type := t.type
  dependsOn := t.dependsOn
  retryPolicy :=
    match t.retryPolicy with
    | some policy => { mode := policy.mode, idempotencyConfirmed := policy.idempotencyConfirmed }
    | none => {}
  config := t.config.getD .empty

/-- `ToConfigList`. -/
def RunTestRequest.toConfigList (r : RunTestRequest) : List TestConfig :=
  r.tests.map TestDto.toConfig

/-- The `validate` tags of `dto.TestDTO`. -/
def TestDto.validate (t : TestDto) : Bool :=
  t.name ≠ "" && t.name.length ≤ 100 &&
    t.type ∈ ["database", "document", "http", "shell", "cache", "queue", "delay"] &&
    t.retryPolicy.all (fun policy => policy.mode ∈ ["transient", "never"]) && t.config.isSome

/-- `dto.Validate`. -/
def RunTestRequest.validate (r : RunTestRequest) : Bool :=
  !r.tests.isEmpty && r.tests.all TestDto.validate

/-- `ValidateRetryPolicy`. -/
def TestDto.validateRetryPolicy (t : TestDto) : Except String Unit :=
  match t.retryPolicy with
  | none => .ok ()
  | some policy =>
    if policy.mode ≠ "transient" ∧ policy.mode ≠ "never" then
      .error ("test " ++ Text.quote t.name ++ " has invalid retry mode " ++ Text.quote policy.mode)
    else if policy.mode = "never" ∧ policy.idempotencyConfirmed then
      .error ("test " ++ Text.quote t.name ++
        " cannot confirm idempotency when retries are disabled")
    else if t.type = "delay" ∧ policy.idempotencyConfirmed then
      .error ("delay test " ++ Text.quote t.name ++ " cannot enable idempotent retries")
    else .ok ()

/-- The answer to a request. -/
inductive RunTestsResponse where
  /-- No slot came free in time. -/
  | tooManyRequests
  | validationFailed
  | badRequest (message : String)
  /-- The handler dereferenced nil. -/
  | crashed
  | results (results : List Dto.TestResult) (summary : Dto.TestSummary)
deriving Inhabited

/-! ## Resuming -/

/-- `rejectUnsafeResume`. -/
def rejectUnsafeResume (tests : List TestConfig) (checkpointIndex : Int) : Except String Unit :=
  if checkpointIndex ≤ 0 then .ok ()
  else
    match (tests.drop checkpointIndex.toNat).find? fun t => !t.replaySafe with
    | some t =>
      .error ("automatic resume blocked because test " ++ Text.quote t.name ++
        " is not replay-safe on a re-provisioned environment")
    | none => .ok ()

/-- `loadPersistedTestPlan`. -/
def loadPersistedTestPlan (raw : String) : Option (List TestConfig) :=
  if raw = "" then some [] else (Codec.slice TestConfig.codec).unmarshal raw

/-- `mergePersistedPlan`. -/
def mergePersistedPlan (requested : List TestConfig) (persistedRaw : String) :
    Option (List TestConfig) :=
  if requested ≠ [] then some requested else loadPersistedTestPlan persistedRaw

/-- The index of the first test that a request runs. -/
def startIndex (checkpointIndex : Int) (tests : List TestConfig) : Nat :=
  if 0 < checkpointIndex ∧ checkpointIndex < tests.length then checkpointIndex.toNat else 0

/-- What `getOrRecoverSession` finds. -/
inductive RecoveredSession where
  | failed (message : String)
  | crashed
  /-- A session, with its row if it has one. -/
  | session (persisted : Option Session)

namespace Handler

variable (h : Handler)

/-- The part of `getOrRecoverSession` that provisions the services of a row anew. -/
def reprovision (persisted : Session) : Task RecoveredSession :=
  if persisted.serviceGraph = "" then
    pure (.failed "session cannot be recovered because no persisted service graph exists")
  else
    match (Codec.slice ServiceConfig.codec).unmarshal persisted.serviceGraph with
    | none => pure (.failed "failed to decode persisted service graph")
    | some services => do
      let (_, provisioned) ← Program.perform (Op.provisionServices services)
      match provisioned with
      | .error e =>
        persistSessionFailure persisted.id e.text .failed
        pure (.failed ("failed to reprovision services for recovered session: " ++ e.text))
      | .ok runtime =>
        h.persistProvisionedState persisted.id runtime
        pure (.session (some persisted))

/-- The part of `getOrRecoverSession` for a session that is not in memory. -/
def recoverSession (backendSessionId : String) (execution : ExecutionContext) :
    Task RecoveredSession := do
  match ← resolvePersistedSession backendSessionId execution with
  | none => pure (.failed "session not found")
  | some persisted =>
    match ← h.ensureSessionLease (some persisted) with
    | .error e => pure (.failed e)
    | .ok none => pure .crashed
    | .ok (some persisted) => h.reprovision persisted

/-- `getOrRecoverSession`; `active` is the `PersistedID` of the session, when it is in memory. -/
def getOrRecoverSession (active : Option String) (backendSessionId : String)
    (execution : ExecutionContext) : Task RecoveredSession :=
  match active with
  | none => h.recoverSession backendSessionId execution
  | some persistedId =>
    if persistedId = "" then pure (.session none)
    else do
      match ← Task.store false (.getSession persistedId) with
      | .error _ => pure (.session none)
      | .ok persisted =>
        match ← h.ensureSessionLease (some persisted) with
        | .error e => pure (.failed e)
        | .ok persisted => pure (.session persisted)

/-! ## The tests of a request -/

/-- The result of a test that ran, or could not be run. -/
def requestResult (scenarioId : String) (test : TestConfig) : TestRun → Dto.TestResult
  | .notInterpolated e =>
    { name := test.name, type := test.type, error := "config interpolation failed : " ++ e.text }
  | .executed _ attempts durationMs recovered failure =>
    if test.type ∉ testExecutors then
      { name := test.name, type := test.type
        error := "executor not found for type " ++ test.type }
    else
      match failure with
      | some f =>
        { name := test.name, type := test.type, error := f.error.base, durationMs, attempts
          containerLogs := f.containerLogs
          diagnostic := some (appendAttemptEvidence (buildExecutionDiagnostic "execution" f.error
            "The test observed behavior that did not match its expectation." scenarioId ""
            test.name test.targetServices) attempts) }
      | none =>
        { name := test.name, type := test.type, passed := true, durationMs, attempts, recovered }

/-- What the handler stores after a test: its result, and how far the plan has come. -/
def storeProgress (persisted : Session) (index : Nat) (results : List Dto.TestResult)
    (result : Dto.TestResult) : Task Unit := do
  persistTestResult persisted result
  if result.passed then h.persistCheckpoint false persisted.id index .runningTests none none
  else
    h.persistCheckpoint false persisted.id index .failed (some .failed)
      (some (summarizeResults results))

/-- The loop of `RunTests` from an index on; `results` are the results so far. -/
def runTestLoop (scenarioId : String) (persisted : Option Session)
    (persistedByName : List (String × Dto.TestResult)) :
    Nat → List TestConfig → List Dto.TestResult → Task (List Dto.TestResult)
  | _, [], results => pure results
  | index, test :: rest, results =>
    if (persistedByName.lookup test.name).isSome then
      runTestLoop scenarioId persisted persistedByName (index + 1) rest results
    else do
      let run ← Program.perform (Op.runTest test)
      let result := requestResult scenarioId test run
      let results := results ++ [result]
      match persisted with
      | none => runTestLoop scenarioId persisted persistedByName (index + 1) rest results
      | some p =>
        h.storeProgress p (index + 1) results result
        runTestLoop scenarioId persisted persistedByName (index + 1) rest results

/-- The summary of a response. -/
def requestSummary (request : RunTestRequest) (results : List Dto.TestResult) : Dto.TestSummary :=
  { total := Int64.ofNat request.tests.length
    passed := countInt (·.passed) results
    failed := countInt (fun r => !r.passed) results
    retried := countInt (fun r => r.attempts.length > 1) results }

/-- The end of `RunTests`: the outcome of the plan is stored. -/
def finishTests (persisted : Option Session) (tests : List TestConfig)
    (results : List Dto.TestResult) : Task Unit :=
  match persisted with
  | none => pure ()
  | some p => do
    let failed := results.any fun r => !r.passed
    h.persistCheckpoint false p.id tests.length (if failed then .failed else .testsCompleted)
      (some (if failed then .failed else .completed)) (some (summarizeResults results))
    releaseSessionLease false p.id

/-- `RunTests` from the stored results on. -/
def runTestsFrom (request : RunTestRequest) (persisted : Option Session)
    (tests : List TestConfig) : Task RunTestsResponse := do
  let loaded ← loadPersistedResults persisted
  -- an error is only logged, and the map of the results is nil
  let persistedByName := match loaded with
    | .ok byName => byName
    | .error _ => []
  let index := startIndex ((persisted.map (·.checkpointIndex)).getD 0) tests
  let results ← h.runTestLoop request.executionContext.scenarioId persisted persistedByName index
    (tests.drop index) (orderedResults persistedByName tests)
  h.finishTests persisted tests results
  pure (.results results (requestSummary request results))

/-- `RunTests` on a session that was found. -/
def runTestsOn (request : RunTestRequest) (persisted : Option Session) : Task RunTestsResponse :=
  match persisted with
  | none => h.runTestsFrom request none request.toConfigList
  | some p =>
    match mergePersistedPlan request.toConfigList p.testPlan with
    | none => pure (.badRequest "failed to load persisted test plan")
    | some tests => do
      -- an error is only logged
      let _ ← h.ensureTestPlan p.id tests
      match rejectUnsafeResume tests p.checkpointIndex with
      | .error e => pure (.badRequest e)
      | .ok () => h.runTestsFrom request (some p) tests

/-- `RunTests` after the lookup of the session. -/
def runTestsOnFound (request : RunTestRequest) : RecoveredSession → Task RunTestsResponse
  | .failed e => pure (.badRequest e)
  | .crashed => pure .crashed
  | .session persisted => h.runTestsOn request persisted

/-- `RunTests` on a decoded request. The slot is `granted` or its wait ends. -/
def runTests (granted : Bool) (active : Option String) (sessionId : String)
    (request : RunTestRequest) : Task RunTestsResponse :=
  if !granted then pure .tooManyRequests
  else if !request.validate then pure .validationFailed
  else
    match request.tests.forM TestDto.validateRetryPolicy with
    | .error e => pure (.badRequest e)
    | .ok () => do
      let found ← h.getOrRecoverSession active sessionId request.executionContext
      h.runTestsOnFound request found

end Handler

end TokyoTester
