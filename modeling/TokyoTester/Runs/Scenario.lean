import TokyoTester.Runs.Sessions

set_option autoImplicit false

/-! # Running one scenario (`workflow_bundle.go`)

A scenario is translated, what an interrupted attempt left behind is removed, its services are
provisioned, its tests run, and its environment is removed again. The removal is deferred: it runs
on every way out after the session was created, detached from the context. Activities are
reported as they happen; the reporter is an argument. -/

namespace TokyoTester

namespace Handler

variable (h : Handler) (report : Activity → Task Unit)

/-! ## Cleaning up -/

/-- `cleanupPersistedSessionResources`: the error, if any. -/
def cleanupPersistedSessionResources (sessionId : String) : Nat → Task (Option String)
  | 0 => pure none
  | 1 => Program.perform (Op.cleanResources sessionId)
  | attempts + 2 => do
    match ← Program.perform (Op.cleanResources sessionId) with
    | none => pure none
    | some _ =>
      match ← Program.perform Op.wait with
      | some _ => pure (some contextCanceled)
      | none => cleanupPersistedSessionResources sessionId (attempts + 1)

/-- The attempts of `cleanupWorkflowBundleSession`: the last error, if all fail. -/
def cleanupAttempts (sessionId : String) : Nat → Task (Option ExecutionError)
  | 0 => pure none
  | attempts + 1 => do
    let (activities, failure) ← Program.perform (Op.deleteSession sessionId)
    Program.forEach report activities
    match failure with
    | none => pure none
    | some e => if attempts = 0 then pure (some e) else cleanupAttempts sessionId attempts

/-- `cleanupWorkflowBundleSession`. Detached from the context, it waits for its slot. -/
def cleanupWorkflowBundleSession (sessionId : String) : Task (Option ExecutionError) :=
  cleanupAttempts report sessionId 3

/-- The response after a cleanup that failed, and its diagnostic. -/
def cleanupFailure (execution : ExecutionContext) (e : ExecutionError)
    (response : ScenarioResponse) : ScenarioResponse × Diagnostic :=
  let diagnostic := buildExecutionDiagnostic "cleanup" e
    "Tokyo Tester could not completely remove the scenario environment."
    execution.scenarioId "" "" []
  ({ response with
      cleanupFailed := true, success := false
      error := if response.error = "" then e.text
        else response.error ++ "; cleanup failed: " ++ e.text
      diagnostics := response.diagnostics ++ [diagnostic] }, diagnostic)

/-- The activity that reports a diagnostic. -/
def diagnosticActivity (stage : String) (d : Diagnostic) : Activity :=
  { stage, kind := "diagnostic", status := "failed", message := d.summary
    serviceNames := d.serviceNames, diagnostic := some d }

/-- `reportWorkflowProgress`. -/
def reportWorkflowProgress (stage message : String) : Task Unit :=
  report { stage, kind := "lifecycle", status := "running", message }

/-! ## Tests -/

/-- The types of tests that can be executed (`NewRegistory`). -/
def testExecutors : List String :=
  ["database", "document", "http", "shell", "cache", "queue", "delay"]

/-- An activity about a test. -/
def testActivity (test : TestConfig) (status message : String) : Activity :=
  { stage := "execution", kind := "test", status, message, testId := test.id
    testName := test.name, serviceNames := test.targetServices }

/-- A result that failed before the test could run. -/
def configurationFailure (test : TestConfig) (e : ExecutionError) (error summary : String) :
    Dto.TestResult :=
  { name := test.name, type := test.type, error
    diagnostic := some (buildExecutionDiagnostic "execution" e summary "" test.id test.name
      test.targetServices) }

/-- `appendAttemptEvidence`. -/
def appendAttemptEvidence (d : Diagnostic) (attempts : List Dto.TestAttempt) : Diagnostic :=
  if attempts.length < 2 then d
  else { d with
    evidence := d.evidence ++ attempts.map fun a =>
      { kind := "lifecycle_event"
        message := boundedDiagnosticEvidence ("Attempt " ++ Text.decimal a.attempt.toInt ++ " " ++
          a.outcome ++ (if a.failureCode = "" then "" else " (" ++ a.failureCode ++ ")") ++
          (if a.message = "" then "" else ": " ++ a.message)) } }

/-- The result of a test that ran. -/
def executedResult (test : TestConfig) (attempts : List Dto.TestAttempt) (durationMs : Int64)
    (recovered : Bool) : Option TestFailure → Dto.TestResult
  | some f =>
    { name := test.name, type := test.type, error := f.error.base, durationMs, attempts
      containerLogs := f.containerLogs
      diagnostic := some (appendAttemptEvidence (buildExecutionDiagnostic "execution" f.error
        "The test observed behavior that did not match its expectation." "" test.id test.name
        test.targetServices) attempts) }
  | none => { name := test.name, type := test.type, passed := true, durationMs, attempts, recovered }

/-- The activity at the end of a test that ran. -/
def executedActivity (test : TestConfig) (result : Dto.TestResult) : Activity :=
  let name := "Test " ++ Text.quote test.name
  let message :=
    if result.passed then
      if result.recovered then name ++ " passed after retry" else name ++ " passed"
    else if result.attempts.length > 1 then
      name ++ " failed after " ++ Text.decimal result.attempts.length ++ " attempts"
    else name ++ " failed"
  { testActivity test (if result.passed then "passed" else "failed") message with
    attempt := result.attempts.length, maxAttempts := 2, diagnostic := result.diagnostic }

/-- One test: its result, and the activity that ends it. -/
def executeTest (test : TestConfig) : Task (Dto.TestResult × Activity) := do
  let name := "Test " ++ Text.quote test.name
  report { testActivity test "started" ("Running test " ++ Text.quote test.name) with
    attempt := 1, maxAttempts := 2 }
  match ← Program.perform (Op.runTest test) with
  | .notInterpolated e =>
    let result := configurationFailure test
      (configurationError ("test configuration interpolation failed: " ++ e.text))
      ("config interpolation failed: " ++ e.text)
      "The test configuration could not be resolved for this environment."
    pure (result, { testActivity test "failed" (name ++ " failed during configuration") with
      diagnostic := result.diagnostic })
  | .executed retryReason attempts durationMs recovered failure =>
    if test.type ∉ testExecutors then
      let result := configurationFailure test
        (configurationError "test executor is not available")
        ("executor not found for type " ++ test.type)
        "Tokyo Tester does not support the configured test type."
      pure (result, { testActivity test "failed" (name ++ " could not start") with
        diagnostic := result.diagnostic })
    else
      if let some reason := retryReason then
        report { testActivity test "retrying" ("Retrying test " ++ Text.quote test.name ++
            " after a transient transport failure") with
          attempt := 2, maxAttempts := 2, retryReason := reason }
      let result := executedResult test attempts durationMs recovered failure
      pure (result, executedActivity test result)

/-- The loop of `executeWorkflowBundleTestsWithCallback`. -/
def executeTests (onResult : TestConfig → Dto.TestResult → Task Unit) :
    List TestConfig → Task (List Dto.TestResult)
  | [] => pure []
  | test :: rest => do
    let (result, activity) ← executeTest report test
    onResult test result
    report activity
    let results ← executeTests onResult rest
    pure (result :: results)

/-- `executeWorkflowBundleTestsWithCallback`. -/
def executeWorkflowBundleTestsWithCallback (onResult : TestConfig → Dto.TestResult → Task Unit)
    (tests : List TestConfig) : Task (List Dto.TestResult) := do
  match ← Program.perform Op.acquireSlot with
  | some cause => pure [{ name := "bundle-execution", type := "delay", error := cause.message }]
  | none => executeTests report onResult tests

/-- The callback that records a result and how far the plan has come. -/
def recordResult (persisted : Option Session) (tests : List TestConfig) (test : TestConfig)
    (result : Dto.TestResult) : Task Unit := do
  match persisted with
  | none => pure ()
  | some persisted =>
    match ← Task.contextCause with
    | some _ => pure ()
    | none =>
      persistTestResult persisted result
      match tests.findIdx? fun t => t.name = test.name with
      | some index => h.persistCheckpoint false persisted.id (index + 1) .runningTests none none
      | none => pure ()

/-! ## The scenario -/

/-- The summary of the results of a finished plan. -/
def planSummary (tests : List TestConfig) (results : List Dto.TestResult) : Dto.TestSummary :=
  { summarizeTestResults results tests.length with
    retried := countInt (fun r => r.attempts.length > 1) results }

/-- A response with the results of all tests. -/
def withResults (response : ScenarioResponse) (results : List Dto.TestResult)
    (summary : Dto.TestSummary) : ScenarioResponse :=
  { response with
    results := some results, summary, success := summary.failed = 0
    error := if summary.failed = 0 then response.error else "one or more tests failed" }

/-- The phase and status a scenario ends with. -/
def finalState (cleanupFailed success : Bool) : SessionPhase × ExecutionStatus :=
  if cleanupFailed then (.cleanupFailed, .cleanupFailed)
  else if success then (.completed, .completed)
  else (.failed, .failed)

/-- The results by the names they carry, a later one counting. -/
def resultByName (results : List Dto.TestResult) : List (String × Dto.TestResult) :=
  (results.map fun r => (r.name, r)).reverse

/-- What a scenario leaves to its deferred cleanup: the response so far, its row, and whether the
    environment has been removed. -/
structure Attempt where
  response : ScenarioResponse
  persisted : Option Session := none
  cleanupDone : Bool := false

/-- The part of a scenario after its tests: the environment is removed and the outcome stored. -/
def finishScenario (sessionId : String) (execution : ExecutionContext)
    (persisted : Option Session) (tests : List TestConfig) (results : List Dto.TestResult)
    (response : ScenarioResponse) : Task Attempt := do
  let response := withResults response results (planSummary tests results)
  if let some p := persisted then
    h.persistCheckpoint false p.id tests.length .cleaningUp none (some (summarizeResults results))
  reportWorkflowProgress report "cleanup" "Cleaning up scenario containers and network"
  let failure ← cleanupWorkflowBundleSession report sessionId
  let response ← match failure with
    | none => pure response
    | some e => do
      let (response, d) := cleanupFailure execution e response
      report (diagnosticActivity "cleanup" d)
      pure response
  if let some p := persisted then
    let (phase, status) := finalState failure.isSome response.success
    h.persistCheckpoint false p.id tests.length phase (some status)
      (some (summarizeResults results))
    releaseSessionLease false p.id
  if failure.isNone then reportWorkflowProgress report "cleanup" "Scenario resources cleaned up"
  pure { response, persisted, cleanupDone := true }

/-- The part of a scenario after its services are ready. -/
def runPlan (sessionId : String) (execution : ExecutionContext) (persisted : Option Session)
    (tests : List TestConfig) (response : ScenarioResponse) : Task Attempt := do
  match ← loadPersistedResults persisted with
  | .error e =>
    pure { response := { response with error := "failed to restore test checkpoints: " ++ e }
           persisted }
  | .ok persistedByName =>
    let results := orderedResults persistedByName tests
    let remaining := tests.filter fun t => (persistedByName.lookup t.name).isNone
    let newResults ← executeWorkflowBundleTestsWithCallback report
      (h.recordResult persisted tests) remaining
    match ← Task.contextCause with
    | some _ => pure { response := { response with error := contextCanceled }, persisted }
    | none =>
      -- a stored result counts under the name in its data, which need not be that of its row
      h.finishScenario report sessionId execution persisted tests
        (orderedResults (resultByName (results ++ newResults)) tests) response

/-- The part of a scenario that needs a provisioning slot. -/
def provisionScenario (sessionId : String) (execution : ExecutionContext)
    (persisted : Option Session) (translated : TranslationResult) (response : ScenarioResponse) :
    Task Attempt := do
  match ← Program.perform Op.acquireSlot with
  | some cause => pure { response := { response with error := cause.message }, persisted }
  | none =>
    reportWorkflowProgress report "provision"
      ("Provisioning " ++ Text.decimal translated.services.length ++ " services")
    let (activities, provisioned) ←
      Program.perform (Op.provisionServices translated.services)
    Program.forEach report activities
    match provisioned with
    | .error e =>
      let d := buildExecutionDiagnostic "provision" e
        "A service did not become ready during environment provisioning."
        execution.scenarioId "" "" []
      report (diagnosticActivity "provision" d)
      if let some p := persisted then
        if (← Task.contextCause).isNone then persistSessionFailure p.id e.text .failed
      pure { response := { response with
               error := "service provisioning failed: " ++ e.base
               diagnostics := response.diagnostics ++ [d] }
             persisted }
    | .ok runtime =>
      reportWorkflowProgress report "provision" "All scenario services are ready"
      match persisted with
      | none => h.runPlan report sessionId execution none translated.tests response
      | some p =>
        h.persistProvisionedState p.id runtime
        match ← h.ensureTestPlan p.id translated.tests with
        | some e =>
          pure { response := { response with error := "failed to persist test plan: " ++ e }
                 persisted }
        | none => h.runPlan report sessionId execution persisted translated.tests response

/-- The body of a scenario from the creation of its session on. While it runs, a heartbeat renews
    the lease of its row. -/
def scenarioBody (sessionId : String) (execution : ExecutionContext)
    (translated : TranslationResult) (response : ScenarioResponse) : Task Attempt := do
  match ← h.buildPersistedSession sessionId execution translated.services with
  | (persisted, some e) =>
    pure { response := { response with error := "failed to persist scenario state: " ++ e }
           persisted }
  | (none, none) => h.provisionScenario report sessionId execution none translated response
  | (some p, none) =>
    Program.perform (Op.startHeartbeat p.id)
    let attempt ← h.provisionScenario report sessionId execution (some p) translated response
    Program.perform Op.stopHeartbeat
    pure attempt

/-- The results a response lists. -/
def responseResults (response : ScenarioResponse) : List Dto.TestResult :=
  response.results.getD []

/-- The deferred cleanup. -/
def deferredCleanup (sessionId : String) (execution : ExecutionContext) (attempt : Attempt) :
    Task ScenarioResponse :=
  if attempt.cleanupDone then pure attempt.response
  else do
    let summary := some (summarizeResults (responseResults attempt.response))
    match ← cleanupWorkflowBundleSession report sessionId with
    | some e =>
      if let some p := attempt.persisted then
        h.persistCheckpoint true p.id p.checkpointIndex .cleanupFailed (some .cleanupFailed) summary
        releaseSessionLease true p.id
      pure (cleanupFailure execution e attempt.response).1
    | none =>
      if let some p := attempt.persisted then
        match ← Task.contextCause with
        | some .cancellationRequested =>
          h.persistCheckpoint true p.id p.checkpointIndex (.other "cancelled") (some .cancelled)
            summary
        | some _ => persistInterruptedSession p.id
        | none => pure ()
        releaseSessionLease true p.id
      pure attempt.response

/-- What an interrupted attempt left behind is removed; a scenario that was interrupted after its
    last test is finished from its checkpoint. The response when the scenario ends here. -/
def recoverScenario (previous : Session) (translated : TranslationResult)
    (response : ScenarioResponse) : Task (Option ScenarioResponse) := do
  match ← cleanupPersistedSessionResources previous.id 3 with
  | some e =>
    if (← Task.contextCause).isNone then persistSessionFailure previous.id e .cleanupFailed
    pure (some { response with
      cleanupFailed := true
      error := "failed to clean interrupted scenario resources: " ++ e })
  | none =>
    if (previous.phase = .cleaningUp ∨ previous.phase = .cleanupFailed) ∧
        previous.checkpointIndex ≥ translated.tests.length then
      match ← loadPersistedResults (some previous) with
      | .error e =>
        pure (some { response with error := "failed to restore completed test checkpoints: " ++ e })
      | .ok byName =>
        let results := orderedResults byName translated.tests
        let response := withResults { response with sessionId := previous.backendSessionId } results
          (summarizeTestResults results translated.tests.length)
        let (phase, status) := finalState false response.success
        h.persistCheckpoint false previous.id translated.tests.length phase (some status)
          (some (summarizeResults results))
        releaseSessionLease false previous.id
        pure (some response)
    else pure none

/-- A scenario in a new session. -/
def runInSession (execution : ExecutionContext) (translated : TranslationResult)
    (response : ScenarioResponse) : Task ScenarioResponse := do
  let sessionId ← Task.newId
  let attempt ← h.scenarioBody report sessionId execution translated { response with sessionId }
  h.deferredCleanup report sessionId execution attempt

/-- `runWorkflowBundleScenarioForRun`. -/
def runWorkflowBundleScenarioForRun (bundle : Bundle) (scenario : BundleScenario)
    (execution : ExecutionContext) : Task ScenarioResponse :=
  let response : ScenarioResponse := { scenarioName := scenario.name }
  match bundle.translateScenario scenario with
  | .error e =>
    let d := buildExecutionDiagnostic "translation"
      { base := e, source := "workflow_configuration", confidence := "certain"
        code := "VALIDATION_ERROR" }
      "The scenario could not be translated into an executable plan." execution.scenarioId "" "" []
    pure { response with error := e, diagnostics := [d] }
  | .ok translated => do
    let response := { response with
      summary := { response.summary with total := Int64.ofNat translated.tests.length } }
    match ← resolvePersistedSession "" execution with
    | none => h.runInSession report execution translated response
    | some previous =>
      if previous.phase = .other "" ∨ previous.phase = .created then
        h.runInSession report execution translated response
      else
        match ← h.recoverScenario previous translated response with
        | some response => pure response
        | none => h.runInSession report execution translated response

end Handler

end TokyoTester
