import TokyoTester.Runs.Request

set_option autoImplicit false

/-! # Results and diagnostics (`pkg/dto`, `pkg/executionevent`, `workflow_diagnostics.go`)

What an execution reports and stores: test results, scenario responses, diagnostics and the
activities that become log events. An error of the environment comes with what the diagnostics
read off it: its text, its classification, the service it names and the container logs it
carries. -/

namespace TokyoTester

open Codec Codec.Fields

/-! ## Diagnostics -/

/-- `executionevent.Evidence`. -/
structure Evidence where
  kind : String := ""
  serviceName : String := ""
  message : String := ""
deriving DecidableEq, Repr, Inhabited

theorem Evidence.tags_nodup : (["kind", "serviceName", "message"].map Json.foldName).Nodup := by
  decide +kernel

def Evidence.codec : Codec Evidence :=
  struct
    (cons "kind" false string (·.kind) <|
      cons "serviceName" true string (·.serviceName) <|
      cons "message" false string (·.message) nil)
    {} (fun (kind, serviceName, message, _) => { kind, serviceName, message })
    (fun _ => rfl) Evidence.tags_nodup

/-- `executionevent.Diagnostic`. -/
structure Diagnostic where
  code : String := ""
  source : String := ""
  confidence : String := ""
  stage : String := ""
  summary : String := ""
  scenarioId : String := ""
  testId : String := ""
  testName : String := ""
  serviceNames : List String := []
  evidence : List Evidence := []
deriving DecidableEq, Repr, Inhabited

def Diagnostic.codec : Codec Diagnostic :=
  struct
    (cons "code" false string (·.code) <|
      cons "source" false string (·.source) <|
      cons "confidence" false string (·.confidence) <|
      cons "stage" false string (·.stage) <|
      cons "summary" false string (·.summary) <|
      cons "scenarioId" true string (·.scenarioId) <|
      cons "testId" true string (·.testId) <|
      cons "testName" true string (·.testName) <|
      cons "serviceNames" true (slice string) (·.serviceNames) <|
      cons "evidence" true (slice Evidence.codec) (·.evidence) nil)
    {} (fun (code, source, confidence, stage, summary, scenarioId, testId, testName, serviceNames,
        evidence, _) =>
      { code, source, confidence, stage, summary, scenarioId, testId, testName, serviceNames
        evidence })
    (fun _ => rfl) (by decide +kernel)

/-- An error as the diagnostics see it. -/
structure ExecutionError where
  /-- The text without container logs (`extractBaseError`). -/
  base : String
  /-- The whole text. -/
  text : String := base
  source : String := "undetermined"
  confidence : String := "unknown"
  code : String := "INTERNAL_ERROR"
  service : String := ""
  containerLogs : List (String × String) := []
deriving DecidableEq, Repr, Inhabited

/-- `extractBaseError`. -/
def extractBaseError (text : String) : String :=
  Text.trimSpace <|
    (Text.cut text "\n--- Container Logs").getD <|
      (Text.cut text "\n--- All Service Logs").getD text

/-- An error of the code `CONFIGURATION_ERROR`. -/
def configurationError (message : String) : ExecutionError :=
  let text := "[CONFIGURATION_ERROR] " ++ message
  { base := extractBaseError text, text, source := "workflow_configuration"
    confidence := "certain", code := "CONFIGURATION_ERROR" }

/-- An error of the code `INTERNAL_ERROR`. -/
def internalError (message : String) : ExecutionError :=
  let text := "[INTERNAL_ERROR] " ++ message
  { base := extractBaseError text, text, source := "tokyo_tester", confidence := "certain" }

/-- `boundedDiagnosticEvidence`: at most 1200 bytes of the text. -/
def boundedDiagnosticEvidence (value : String) : String :=
  let value := Text.trimSpace value
  if value.utf8ByteSize ≤ 1200 then value else Text.takeBytes 1200 value ++ "…"

/-- `buildExecutionDiagnostic`. -/
def buildExecutionDiagnostic (stage : String) (err : ExecutionError)
    (summary scenarioId testId testName : String) (serviceNames : List String) : Diagnostic :=
  let message := boundedDiagnosticEvidence err.base
  { code := err.code, source := err.source, confidence := err.confidence, stage, summary
    scenarioId, testId, testName
    serviceNames := if nonBlank err.service then appendUnique serviceNames (Text.trimSpace err.service)
      else serviceNames
    evidence := [{ kind := "runner_error", message }] ++
      (if testId ≠ "" ∨ testName ≠ "" then [{ kind := "test_result", message }] else []) ++
      err.containerLogs.map fun l =>
        { kind := "container_log", serviceName := l.1, message := boundedDiagnosticEvidence l.2 } }

/-- `executionevent.Activity`. -/
structure Activity where
  stage : String := ""
  kind : String := ""
  status : String := ""
  message : String := ""
  serviceId : String := ""
  serviceName : String := ""
  serviceNames : List String := []
  testId : String := ""
  testName : String := ""
  attempt : Nat := 0
  maxAttempts : Nat := 0
  retryReason : String := ""
  diagnostic : Option Diagnostic := none
deriving DecidableEq, Repr, Inhabited

/-! ## Test results -/

namespace Dto

/-- `dto.TestAttempt`. -/
structure TestAttempt where
  attempt : Int64 := 0
  outcome : String := ""
  durationMs : Int64 := 0
  failureClass : String := ""
  failureCode : String := ""
  message : String := ""
  retryScheduled : Bool := false
deriving DecidableEq, Repr, Inhabited

def TestAttempt.codec : Codec TestAttempt :=
  struct
    (cons "attempt" false int (·.attempt) <|
      cons "outcome" false string (·.outcome) <|
      cons "duration_ms" false int (·.durationMs) <|
      cons "failure_class" true string (·.failureClass) <|
      cons "failure_code" true string (·.failureCode) <|
      cons "message" true string (·.message) <|
      cons "retry_scheduled" true bool (·.retryScheduled) nil)
    {} (fun (attempt, outcome, durationMs, failureClass, failureCode, message, retryScheduled,
        _) =>
      { attempt, outcome, durationMs, failureClass, failureCode, message, retryScheduled })
    (fun _ => rfl) (by decide +kernel)

/-- `dto.TestResult`. -/
structure TestResult where
  name : String := ""
  type : String := ""
  passed : Bool := false
  error : String := ""
  durationMs : Int64 := 0
  attempts : List TestAttempt := []
  recovered : Bool := false
  containerLogs : GoMap String := .empty
  diagnostic : Option Diagnostic := none
deriving Inhabited

def TestResult.codec : Codec TestResult :=
  struct
    (cons "name" false string (·.name) <|
      cons "type" false string (·.type) <|
      cons "passed" false bool (·.passed) <|
      cons "error" true string (·.error) <|
      cons "duration_ms" true int (·.durationMs) <|
      cons "attempts" true (slice TestAttempt.codec) (·.attempts) <|
      cons "recovered_after_retry" true bool (·.recovered) <|
      cons "container_logs" true (map string) (·.containerLogs) <|
      cons "diagnostic" true (pointer Diagnostic.codec fun _ => rfl) (·.diagnostic) nil)
    {} (fun (name, type, passed, error, durationMs, attempts, recovered, containerLogs,
        diagnostic, _) =>
      { name, type, passed, error, durationMs, attempts, recovered, containerLogs, diagnostic })
    (fun _ => rfl) (by decide +kernel)

/-- `dto.TestSummary`. -/
structure TestSummary where
  total : Int64 := 0
  passed : Int64 := 0
  failed : Int64 := 0
  retried : Int64 := 0
deriving DecidableEq, Repr, Inhabited

def TestSummary.codec : Codec TestSummary :=
  struct
    (cons "total" false int (·.total) <|
      cons "passed" false int (·.passed) <|
      cons "failed" false int (·.failed) <|
      cons "retried" true int (·.retried) nil)
    {} (fun (total, passed, failed, retried, _) => { total, passed, failed, retried })
    (fun _ => rfl) (by decide +kernel)

end Dto

/-- `dto.WorkflowBundleScenarioResponse`. -/
structure ScenarioResponse where
  scenarioName : String := ""
  sessionId : String := ""
  success : Bool := false
  cleanupFailed : Bool := false
  results : Option (List Dto.TestResult) := none
  summary : Dto.TestSummary := {}
  error : String := ""
  diagnostics : List Diagnostic := []
deriving Inhabited

def ScenarioResponse.codec : Codec ScenarioResponse :=
  struct
    (cons "scenario_name" false string (·.scenarioName) <|
      cons "session_id" false string (·.sessionId) <|
      cons "success" false bool (·.success) <|
      cons "cleanup_failed" true bool (·.cleanupFailed) <|
      cons "results" false (nilSlice Dto.TestResult.codec) (·.results) <|
      cons "summary" false Dto.TestSummary.codec (·.summary) <|
      cons "error" true string (·.error) <|
      cons "diagnostics" true (slice Diagnostic.codec) (·.diagnostics) nil)
    {} (fun (scenarioName, sessionId, success, cleanupFailed, results, summary, error,
        diagnostics, _) =>
      { scenarioName, sessionId, success, cleanupFailed, results, summary, error, diagnostics })
    (fun _ => rfl) (by decide +kernel)

/-- `persistedTestResult`: a stored result with what later tests may refer to. -/
structure PersistedTestResult where
  result : Dto.TestResult := {}
  interpolationData : Option AnyValue := none
deriving Inhabited

def PersistedTestResult.codec : Codec PersistedTestResult :=
  struct
    (cons "name" false string (·.result.name) <|
      cons "type" false string (·.result.type) <|
      cons "passed" false bool (·.result.passed) <|
      cons "error" true string (·.result.error) <|
      cons "duration_ms" true int (·.result.durationMs) <|
      cons "attempts" true (slice Dto.TestAttempt.codec) (·.result.attempts) <|
      cons "recovered_after_retry" true bool (·.result.recovered) <|
      cons "diagnostic" true (pointer Diagnostic.codec fun _ => rfl) (·.result.diagnostic) <|
      cons "container_logs" true (map string) (·.result.containerLogs) <|
      cons "interpolation_data" true any (·.interpolationData) nil)
    {} (fun (name, type, passed, error, durationMs, attempts, recovered, diagnostic,
        containerLogs, interpolationData, _) =>
      { result := { name, type, passed, error, durationMs, attempts, recovered, diagnostic
                    containerLogs }
        interpolationData })
    (fun _ => rfl) (by decide +kernel)

/-! ## Summaries -/

/-- How many elements satisfy a condition. -/
def countInt {α : Type} (p : α → Bool) (xs : List α) : Int64 := Int64.ofNat (xs.countP p)

/-- `summarizeTestResults`. -/
def summarizeTestResults (results : List Dto.TestResult) (total : Nat) : Dto.TestSummary where
  total := Int64.ofNat total
  passed := countInt (·.passed) results
  failed := countInt (fun r => !r.passed) results

/-- A `map[string]any` as it is printed: sorted by its keys. -/
def jsonMap (entries : List (String × Json)) : Json := .obj (GoMap.ofList entries).entries

/-- `summarizeResults`. -/
def summarizeResults (results : List Dto.TestResult) : Json :=
  jsonMap [("total", .int results.length), ("passed", .int (results.countP (·.passed))),
    ("failed", .int (results.countP fun r => !r.passed)),
    ("retried", .int (results.countP fun r => r.attempts.length > 1))]

/-- `mapScenarioStatusValue`. -/
def mapScenarioStatusValue (success : Bool) : String := if success then "completed" else "failed"

/-- `attachScenarioToDiagnostics`. -/
def attachScenarioToDiagnostics (result : ScenarioResponse) (scenarioId : String) :
    ScenarioResponse :=
  let attach (d : Diagnostic) : Diagnostic :=
    if d.scenarioId = "" then { d with scenarioId } else d
  if scenarioId = "" then result
  else { result with
    diagnostics := result.diagnostics.map attach
    results := result.results.map (List.map fun r =>
      { r with diagnostic := r.diagnostic.map attach }) }

/-- `workflowErrors`. -/
def workflowErrors (scenarios : List RunScenario) (results : List ScenarioResponse) : String :=
  Text.join "\n" ((scenarios.zip results).filterMap fun (s, r) =>
    if r.error = "" then none else some (s.name ++ ": " ++ r.error))

/-- `workflowDiagnostics`. -/
def workflowDiagnostics (results : List ScenarioResponse) : List Diagnostic :=
  results.flatMap fun r => r.diagnostics ++ (r.results.getD []).filterMap (·.diagnostic)

/-- `scenarioSnapshots`. -/
def scenarioSnapshots (scenarios : List RunScenario) (results : List ScenarioResponse) : Json :=
  .arr ((scenarios.zip results).map fun (s, r) =>
    jsonMap [("scenarioId", .str s.id), ("scenarioName", .str s.name),
      ("backendSessionId", .str r.sessionId), ("success", .bool r.success),
      ("status", .str (if r.cleanupFailed then "cleanup_failed"
        else mapScenarioStatusValue r.success)),
      ("error", .str r.error),
      ("diagnostics", if r.diagnostics.isEmpty then .null
        else (slice Diagnostic.codec).encode r.diagnostics)])

end TokyoTester
