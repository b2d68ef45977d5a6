import TokyoTester.Library.Table
import TokyoTester.Realtime.Events
import Mathlib.Data.List.DropRight
import Mathlib.Data.List.Sort

set_option autoImplicit false

/-! # The stores that events are applied to

The actions of the execution, scenario run and test result stores that `useRealtimeLogs` calls, and
the two effects that apply the head of a queue: a log event (`applyLog`) and a batch of test results
(`applyResults`). An effect sees the scenario runs of the last render (`rendered`). -/

namespace TokyoTester
namespace Realtime

open Table

/-- The clock, as `Date.now()` and as `new Date().toISOString()`. -/
structure Now where
  millis : Nat
  iso : String

/-! ## The execution store -/

structure WorkflowExecution where
  workflowRunId : String
  status : WorkflowRunStatus := .pending
  logs : List String := []
  result : Option AggregatedWorkflowResult := none
  error : Option String := none
  finishedAt : Option Nat := none
  lastEventId : Option String := none
  version : Nat := 1
deriving DecidableEq, Repr

/-- The record of a run is replaced if there is one. -/
def updateExecution (workflowRunId : String) (f : WorkflowExecution → WorkflowExecution)
    (executions : List WorkflowExecution) : List WorkflowExecution :=
  updateWhere (fun execution => execution.workflowRunId = workflowRunId) f executions

def appendLog (workflowRunId message : String) :
    List WorkflowExecution → List WorkflowExecution :=
  updateExecution workflowRunId fun execution =>
    { execution with
      logs := (execution.logs ++ [message]).rtake 500, version := execution.version + 1 }

def failExecution (now : Now) (workflowRunId error : String) :
    List WorkflowExecution → List WorkflowExecution :=
  updateExecution workflowRunId fun execution =>
    { execution with
      status := .failed, error := some error, finishedAt := some now.millis
      version := execution.version + 1 }

def updateExecutionStatus (now : Now) (workflowRunId : String) (status : WorkflowRunStatus)
    (result : Option AggregatedWorkflowResult) (error : Option String) :
    List WorkflowExecution → List WorkflowExecution :=
  updateExecution workflowRunId fun execution =>
    { execution with
      status, result := result <|> execution.result, error := error <|> execution.error
      finishedAt := if isWorkflowRunActive status then execution.finishedAt else some now.millis
      version := execution.version + 1 }

def updateReplayCursor (workflowRunId eventId : String) :
    List WorkflowExecution → List WorkflowExecution :=
  updateExecution workflowRunId fun execution =>
    if isNewerEventId execution.lastEventId eventId then
      { execution with lastEventId := some eventId }
    else execution

/-! ## The scenario run store -/

structure ScenarioRun where
  id : String
  workflowRunId : String
  scenarioId : String
  backendSessionId : Option String := none
  status : ScenarioRunStatus := .pending
  error : Option String := none
  phase : Option String := none
  logs : List String := []
  finishedAt : Option Nat := none
  version : Nat := 1
deriving DecidableEq, Repr

/-- The updates that the hook makes. A field that the update does not have is `none`. -/
structure ScenarioRunUpdates where
  backendSessionId : Option String
  status : ScenarioRunStatus
  error : Option (Option String) := none
  phase : Option (Option String) := none

def appendScenarioLog (scenarioRunId message : String) (runs : List ScenarioRun) :
    List ScenarioRun :=
  updateWhere (fun run => run.id = scenarioRunId)
    (fun run => { run with logs := run.logs ++ [message], version := run.version + 1 }) runs

def updateScenarioRun (now : Now) (scenarioRunId : String) (updates : ScenarioRunUpdates)
    (runs : List ScenarioRun) : List ScenarioRun :=
  updateWhere (fun run => run.id = scenarioRunId)
    (fun run => { run with
      backendSessionId := updates.backendSessionId
      status := updates.status
      error := updates.error.getD run.error
      phase := updates.phase.getD run.phase
      finishedAt := if updates.status ≠ .running then some now.millis else run.finishedAt
      version := run.version + 1 }) runs

/-- The scenario run that an event is about. -/
def findScenarioRun (workflowRunId scenarioId : String) (runs : List ScenarioRun) :
    Option ScenarioRun :=
  runs.find? fun run => run.workflowRunId = workflowRunId && run.scenarioId = scenarioId

/-! ## The test result store -/

structure TestResultUpdates where
  projectId : String
  sessionId : String
  workflowRunId : String
  workflowId : String
  scenarioRunId : Option String
  scenarioId : String
  scenarioName : String
  testName : String
  testType : String
  status : ScenarioTestResultStatus
  resultData : Option Json
  durationMs : Nat
  executedAt : String
  containerLogs : Option (List (String × String))

structure TestResult extends TestResultUpdates where
  id : String
  version : Nat := 1

def updateTestResult (id : String) (updates : TestResultUpdates) (results : List TestResult) :
    List TestResult :=
  match find TestResult.id id results with
  | none =>
    if updates.sessionId = "" ∨ updates.workflowId = "" ∨ updates.testName = "" ∨
        updates.testType = "" then results
    else results ++ [{ toTestResultUpdates := updates, id }]
  | some existing =>
    replace TestResult.id
      { toTestResultUpdates := updates, id, version := existing.version + 1 } results

/-! ## A log event -/

structure Stores where
  executions : List WorkflowExecution := []
  scenarioRuns : List ScenarioRun := []
  testResults : List TestResult := []

/-- `aggregatedStatus`: the status in the result of a log event without a scenario. -/
def aggregatedStatus (event : WorkflowLogEvent) : Option WorkflowRunStatus :=
  if (truthy event.scenarioId).isSome then none
  else event.result.bind fun result => result.status.bind WorkflowRunStatus.ofText

/-- The status that an aggregated result gives a scenario run. -/
def aggregatedScenarioStatus (run : ScenarioRun) (result : AggregatedScenarioResult) :
    ScenarioRunStatus :=
  result.status.getD <| match result.success with
    | some true => .completed
    | some false => .failed
    | none => run.status

/-- One turn of the loop over the aggregated scenario results. -/
def applyAggregatedScenario (now : Now) (rendered : List ScenarioRun) (workflowRunId : String)
    (runs : List ScenarioRun) (result : AggregatedScenarioResult) : List ScenarioRun :=
  match findScenarioRun workflowRunId result.scenarioId rendered with
  | none => runs
  | some run =>
    updateScenarioRun now run.id
      { backendSessionId := truthy result.backendSessionId <|> run.backendSessionId
        status := aggregatedScenarioStatus run result
        error := some (result.error <|> run.error) } runs

/-- The scenario run of a log event. -/
def applyScenarioLog (now : Now) (rendered : List ScenarioRun) (event : WorkflowLogEvent)
    (runs : List ScenarioRun) : List ScenarioRun :=
  match truthy event.scenarioId with
  | none => runs
  | some scenarioId =>
    match findScenarioRun event.workflowRunId scenarioId rendered with
    | none => runs
    | some run =>
      updateScenarioRun now run.id
        { backendSessionId := event.backendSessionId
          status := resolveScenarioLogStatus run.status event.status
          error := some (event.error <|> run.error)
          phase := some (event.stage <|> run.phase) }
        (appendScenarioLog run.id event.message runs)

/-- The status of the run that a log event without an aggregated result writes. -/
def applyWorkflowStatus (now : Now) (event : WorkflowLogEvent)
    (executions : List WorkflowExecution) : List WorkflowExecution :=
  match workflowStatusFromLogEvent event.scenarioId event.status with
  | some .running =>
    updateExecutionStatus now event.workflowRunId .running none none executions
  | some .cancelling =>
    updateExecutionStatus now event.workflowRunId .cancelling none none executions
  | some .cancelled =>
    updateExecutionStatus now event.workflowRunId .cancelled event.result event.error executions
  | some .completed =>
    updateExecutionStatus now event.workflowRunId .completed event.result none executions
  | some .failed =>
    failExecution now event.workflowRunId (event.error.getD "Workflow execution failed") executions
  -- the other statuses are not looked at
  | _ => executions

/-- The stores after a log event that was not seen before. -/
def applyLogEvent (now : Now) (rendered : List ScenarioRun) (eventId : String)
    (event : WorkflowLogEvent) (stores : Stores) : Stores :=
  let moved := if eventId = "" then stores.executions
    else updateReplayCursor event.workflowRunId eventId stores.executions
  let logged := appendLog event.workflowRunId event.message moved
  let runs := applyScenarioLog now rendered event stores.scenarioRuns
  match aggregatedStatus event with
  | some status =>
    { stores with
      scenarioRuns :=
        ((event.result.bind AggregatedWorkflowResult.scenarioResults).getD []).foldl
          (applyAggregatedScenario now rendered event.workflowRunId) runs
      executions := updateExecutionStatus now event.workflowRunId status event.result
        (extractWorkflowError event.error event.result) logged }
  | none =>
    { stores with scenarioRuns := runs, executions := applyWorkflowStatus now event logged }

/-! ## A batch of test results -/

/-- The updates of one test result. -/
def testResultUpdates (now : Now) (run : Option ScenarioRun) (event : ScenarioTestResultEvent)
    (result : ScenarioTestResult) : TestResultUpdates where
  sessionId := (truthy event.backendSessionId <|> truthy (run.bind ScenarioRun.backendSessionId)
    <|> truthy (run.map ScenarioRun.id)).getD event.scenarioId
  projectId := event.projectId
  workflowRunId := event.workflowRunId
  workflowId := event.workflowId
  scenarioRunId := run.map ScenarioRun.id
  scenarioId := event.scenarioId
  scenarioName := event.scenarioName
  testName := result.testName
  testType := (truthy result.testType).getD "database"
  status := result.status
  resultData := result.resultData
  durationMs := result.durationMs.getD 0
  executedAt := result.executedAt.getD now.iso
  containerLogs := result.containerLogs

/-- The stores after a batch that was not seen before. -/
def applyResultEvent (now : Now) (rendered : List ScenarioRun) (eventId : String)
    (event : ScenarioTestResultEvent) (stores : Stores) : Stores :=
  let run := findScenarioRun event.workflowRunId event.scenarioId rendered
  { executions := if eventId = "" then stores.executions
      else updateReplayCursor event.workflowRunId eventId stores.executions
    scenarioRuns := match run with
      | none => stores.scenarioRuns
      | some run =>
        updateScenarioRun now run.id
          { backendSessionId := event.backendSessionId
            status := resolveScenarioTestStatus run.status event.results } stores.scenarioRuns
    testResults :=
      (event.results.insertionSort fun left right => left.sequence ≤ right.sequence).foldl
        (fun results result =>
          updateTestResult result.testResultId (testResultUpdates now run event result) results)
        stores.testResults }

/-! ## The two effects -/

/-- What an effect works on: the stores, the scenario runs of the last render, and the events that
    were processed since the hook was mounted. -/
structure Page where
  stores : Stores := {}
  rendered : List ScenarioRun := []
  processedEventIds : List String := []

/-- The key of a log event. -/
def logKey (event : WorkflowLogEvent) : String :=
  "workflowlog:" ++ event.workflowRunId ++ ":" ++ (truthy event.scenarioId).getD "workflow" ++
    ":" ++ toString event.timestamp ++ ":" ++ toString event.sequence

/-- An event that was processed is skipped. -/
def Page.once (key : String) (apply : Stores → Stores) (page : Page) : Page :=
  if key ∈ page.processedEventIds then page
  else { page with
    stores := apply page.stores, processedEventIds := key :: page.processedEventIds }

/-- The effect of the head of the log queue. -/
def applyLog (now : Now) (eventId : String) (event : WorkflowLogEvent) (page : Page) : Page :=
  page.once (logKey event) (applyLogEvent now page.rendered eventId event)

/-- The effect of the head of the result queue. -/
def applyResults (now : Now) (eventId : String) (event : ScenarioTestResultEvent) (page : Page) :
    Page :=
  page.once event.bulkId (applyResultEvent now page.rendered eventId event)

end Realtime
end TokyoTester
