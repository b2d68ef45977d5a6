import TokyoTester.Library.Json

set_option autoImplicit false

/-! # The events of a run in the browser (`lib/realtime-events.ts`)

What the hook reads of a log event and of a batch of test results, and the functions that turn them
into statuses. The status of a log event is a text that the functions check; the scenario results of
a workflow's result are cast to their type. -/

namespace TokyoTester
namespace Realtime

/-! ## Statuses -/

inductive WorkflowRunStatus where
  | pending
  | running
  | cancelling
  | cancelled
  | completed
  | failed
  | partialFailed
  | cleanupFailed
deriving DecidableEq, Repr

inductive ScenarioRunStatus where
  | pending
  | running
  | cancelling
  | cancelled
  | completed
  | failed
  | cleanupFailed
deriving DecidableEq, Repr

inductive ScenarioTestResultStatus where
  | pending
  | running
  | passed
  | failed
deriving DecidableEq, Repr

/-- `isWorkflowRunStatus`: the status of a text that is one. -/
def WorkflowRunStatus.ofText : String → Option WorkflowRunStatus
  | "pending" => some .pending
  | "running" => some .running
  | "cancelling" => some .cancelling
  | "cancelled" => some .cancelled
  | "completed" => some .completed
  | "failed" => some .failed
  | "partial_failed" => some .partialFailed
  | "cleanup_failed" => some .cleanupFailed
  | _ => none

/-- `isWorkflowRunActive`. -/
def isWorkflowRunActive (status : WorkflowRunStatus) : Bool :=
  status = .pending || status = .running || status = .cancelling

/-! ## Events -/

structure AggregatedScenarioResult where
  scenarioId : String
  scenarioName : String
  backendSessionId : Option String := none
  status : Option ScenarioRunStatus := none
  success : Option Bool := none
  error : Option String := none
deriving DecidableEq, Repr

/-- The result of a log event. One that is not an object reads as one without fields. -/
structure AggregatedWorkflowResult where
  status : Option String := none
  scenarioResults : Option (List AggregatedScenarioResult) := none
deriving DecidableEq, Repr

structure WorkflowLogEvent where
  workflowRunId : String
  scenarioId : Option String := none
  backendSessionId : Option String := none
  message : String
  status : Option String := none
  stage : Option String := none
  timestamp : Nat
  sequence : Nat
  result : Option AggregatedWorkflowResult := none
  error : Option String := none
deriving DecidableEq, Repr

structure ScenarioTestResult where
  testResultId : String
  testName : String
  testType : Option String := none
  status : ScenarioTestResultStatus
  resultData : Option Json := none
  durationMs : Option Nat := none
  executedAt : Option String := none
  containerLogs : Option (List (String × String)) := none
  sequence : Nat

structure ScenarioTestResultEvent where
  workflowRunId : String
  projectId : String
  workflowId : String
  scenarioId : String
  scenarioName : String
  backendSessionId : Option String := none
  bulkId : String
  results : List ScenarioTestResult

/-- A text that counts as true. -/
def truthy (text : Option String) : Option String := text.filter fun t => t ≠ ""

/-! ## From events to statuses -/

/-- `workflowStatusFromLogEvent`. -/
def workflowStatusFromLogEvent (scenarioId status : Option String) : Option WorkflowRunStatus :=
  if (truthy scenarioId).isSome then none else status.bind WorkflowRunStatus.ofText

/-- `extractWorkflowError`. -/
def extractWorkflowError (explicitError : Option String)
    (result : Option AggregatedWorkflowResult) : Option String :=
  match truthy explicitError with
  | some error => some error
  | none =>
    match result.bind AggregatedWorkflowResult.scenarioResults with
    | none => none
    | some scenarios =>
      truthy <| some <| "\n".intercalate <| scenarios.filterMap fun scenario =>
        (truthy scenario.error).map fun error =>
          ((truthy (some scenario.scenarioName)).getD scenario.scenarioId) ++ ": " ++ error

/-- `resolveScenarioLogStatus`. -/
def resolveScenarioLogStatus (current : ScenarioRunStatus) (eventStatus : Option String) :
    ScenarioRunStatus :=
  if eventStatus = some "cleanup_failed" then .cleanupFailed
  else if eventStatus = some "failed" then .failed
  else if eventStatus = some "completed" then .completed
  else if current = .completed ∨ current = .failed ∨ current = .cleanupFailed then current
  else .running

/-- `resolveScenarioTestStatus`. -/
def resolveScenarioTestStatus (current : ScenarioRunStatus) (results : List ScenarioTestResult) :
    ScenarioRunStatus :=
  if results.any (·.status = .failed) then .failed
  else if 0 < results.length ∧ results.all (·.status = .passed) then .completed
  else if results.any (fun result => result.status = .running || result.status = .pending) ∧
      current ≠ .completed ∧ current ≠ .failed ∧ current ≠ .cleanupFailed then .running
  else current

/-! ## Event ids -/

/-- `BigInt` of a text. The ids of events are decimal; blanks, a plus sign and other bases, which it
    reads as well, do not occur in them. -/
def bigInt (text : String) : Option Int := Json.intOfLiteral text

/-- `isNewerEventId`. -/
def isNewerEventId (current : Option String) (candidate : String) : Bool :=
  if candidate = "" then false
  else match truthy current with
    | none => true
    | some current =>
      match bigInt candidate, bigInt current with
      | some a, some b => decide (b < a)
      | _, _ => candidate ≠ current

end Realtime
end TokyoTester
