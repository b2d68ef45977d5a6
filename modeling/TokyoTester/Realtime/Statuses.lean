import TokyoTester.Library.Latch
import TokyoTester.Library.Trace
import TokyoTester.Realtime.Stores

set_option autoImplicit false

/-! # Final statuses in the browser

The status of a run is written as the event says, whatever it was. That of a scenario run goes
through a function that keeps "completed", "failed" and "cleanup_failed", of the run as it was
rendered, but not "cancelled"; the scenario results of a workflow's result are written as they are.
An event moves nothing back exactly when it does not write an active status over a final one
(`RealtimeStep.reopens`). -/

namespace TokyoTester
namespace Realtime

open Table Latch

/-! ## Events and steps -/

inductive RealtimeEvent where
  | log (eventId : String) (event : WorkflowLogEvent)
  | testResult (eventId : String) (event : ScenarioTestResultEvent)
  | heartbeat

inductive RealtimeStep where
  /-- The component is rendered: the effects see the scenario runs that are stored now. -/
  | render
  /-- An event is at the head of its queue, or a heartbeat arrives. -/
  | receive (now : Now) (event : RealtimeEvent)
  /-- The hook is mounted again, or its run changes: events may be replayed. -/
  | remount

def RealtimeStep.apply (page : Page) : RealtimeStep → Page
  | .render => { page with rendered := page.stores.scenarioRuns }
  | .receive now (.log eventId event) => applyLog now eventId event page
  | .receive now (.testResult eventId event) => applyResults now eventId event page
  | .receive _ .heartbeat => page
  | .remount => { page with processedEventIds := [] }

/-! ## Statuses -/

def WorkflowRunStatus.terminal (status : WorkflowRunStatus) : Bool := !isWorkflowRunActive status

def ScenarioRunStatus.terminal (status : ScenarioRunStatus) : Bool :=
  !(status = .pending || status = .running || status = .cancelling)

/-- The status of each run in the store. -/
def runStatus (executions : List WorkflowExecution) : String → Option WorkflowRunStatus :=
  fun id => (find WorkflowExecution.workflowRunId id executions).map WorkflowExecution.status

/-- The status of each scenario run in the store. -/
def scenarioStatus (runs : List ScenarioRun) : String → Option ScenarioRunStatus :=
  fun id => (find ScenarioRun.id id runs).map ScenarioRun.status

/-- What has a final status in the first stores has one in the second. -/
structure FinalStatusesKept (stores stores' : Stores) : Prop where
  runs : Kept WorkflowRunStatus.terminal (runStatus stores.executions)
    (runStatus stores'.executions)
  scenarioRuns : Kept ScenarioRunStatus.terminal (scenarioStatus stores.scenarioRuns)
    (scenarioStatus stores'.scenarioRuns)

theorem FinalStatusesKept.refl (stores : Stores) : FinalStatusesKept stores stores :=
  ⟨.refl _, .refl _⟩

theorem FinalStatusesKept.trans {a b c : Stores} (h : FinalStatusesKept a b)
    (h' : FinalStatusesKept b c) : FinalStatusesKept a c :=
  ⟨h.runs.trans h'.runs, h.scenarioRuns.trans h'.scenarioRuns⟩

/-! ## What an event writes -/

/-- The status that a log event writes to its run. -/
def writtenStatus (event : WorkflowLogEvent) : Option WorkflowRunStatus :=
  (aggregatedStatus event).or <|
    (workflowStatusFromLogEvent event.scenarioId event.status).filter fun status =>
      status ≠ .pending ∧ status ≠ .partialFailed ∧ status ≠ .cleanupFailed

/-- The statuses that an event writes to runs. -/
def RealtimeEvent.runWrites : RealtimeEvent → List (String × WorkflowRunStatus)
  | .log _ event => (writtenStatus event).toList.map fun status => (event.workflowRunId, status)
  | _ => []

/-- A status for the scenario run of an event, computed from the run as it was rendered. -/
def scenarioWrite (rendered : List ScenarioRun) (workflowRunId scenarioId : String)
    (status : ScenarioRun → ScenarioRunStatus) : List (String × ScenarioRunStatus) :=
  (findScenarioRun workflowRunId scenarioId rendered).toList.map fun run => (run.id, status run)

/-- The statuses that an event writes to scenario runs. -/
def RealtimeEvent.scenarioWrites (rendered : List ScenarioRun) :
    RealtimeEvent → List (String × ScenarioRunStatus)
  | .log _ event =>
    match truthy event.scenarioId with
    | some scenarioId => scenarioWrite rendered event.workflowRunId scenarioId fun run =>
        resolveScenarioLogStatus run.status event.status
    | none =>
      if (aggregatedStatus event).isSome then
        ((event.result.bind AggregatedWorkflowResult.scenarioResults).getD []).flatMap fun result =>
          scenarioWrite rendered event.workflowRunId result.scenarioId fun run =>
            aggregatedScenarioStatus run result
      else []
  | .testResult _ event => scenarioWrite rendered event.workflowRunId event.scenarioId fun run =>
      resolveScenarioTestStatus run.status event.results
  | .heartbeat => []

/-- The key under which an event counts as processed. -/
def RealtimeEvent.key : RealtimeEvent → Option String
  | .log _ event => some (logKey event)
  | .testResult _ event => some event.bulkId
  | .heartbeat => none

/-- An event that was not processed writes an active status over a final one. -/
def RealtimeStep.reopens (page : Page) : RealtimeStep → Bool
  | .receive _ event =>
    event.key.all (fun key => key ∉ page.processedEventIds) &&
      (undoes WorkflowRunStatus.terminal (runStatus page.stores.executions) event.runWrites ||
        undoes ScenarioRunStatus.terminal (scenarioStatus page.stores.scenarioRuns)
          (event.scenarioWrites page.rendered))
  | _ => false

/-! ## The actions of the stores -/

section Actions

variable {now : Now} {executions : List WorkflowExecution} {runs rendered : List ScenarioRun}

@[simp] theorem runStatus_appendLog (id message : String) :
    runStatus (appendLog id message executions) = runStatus executions := by
  unfold runStatus appendLog updateExecution
  apply map_find_updateWhere_of_eq WorkflowExecution.workflowRunId WorkflowExecution.status
  · intro execution
    rfl
  · intro execution
    rfl

@[simp] theorem runStatus_updateReplayCursor (id eventId : String) :
    runStatus (updateReplayCursor id eventId executions) = runStatus executions := by
  unfold runStatus updateReplayCursor updateExecution
  apply map_find_updateWhere_of_eq WorkflowExecution.workflowRunId WorkflowExecution.status
  · intro execution
    split_ifs <;> rfl
  · intro execution
    split_ifs <;> rfl

theorem runStatus_updateExecutionStatus (id : String) (status : WorkflowRunStatus)
    (result : Option AggregatedWorkflowResult) (error : Option String) :
    runStatus (updateExecutionStatus now id status result error executions)
      = overwrite (runStatus executions) (id, status) := by
  unfold runStatus updateExecutionStatus updateExecution
  apply map_find_updateWhere_of_write WorkflowExecution.workflowRunId WorkflowExecution.status
  · intro execution
    rfl
  · intro execution
    rfl

theorem runStatus_failExecution (id error : String) :
    runStatus (failExecution now id error executions)
      = overwrite (runStatus executions) (id, .failed) := by
  unfold runStatus failExecution updateExecution
  apply map_find_updateWhere_of_write WorkflowExecution.workflowRunId WorkflowExecution.status
  · intro execution
    rfl
  · intro execution
    rfl

@[simp] theorem scenarioStatus_appendScenarioLog (id message : String) :
    scenarioStatus (appendScenarioLog id message runs) = scenarioStatus runs := by
  unfold scenarioStatus appendScenarioLog
  apply map_find_updateWhere_of_eq ScenarioRun.id ScenarioRun.status
  · intro run
    rfl
  · intro run
    rfl

theorem scenarioStatus_updateScenarioRun (id : String) (updates : ScenarioRunUpdates) :
    scenarioStatus (updateScenarioRun now id updates runs)
      = overwrite (scenarioStatus runs) (id, updates.status) := by
  unfold scenarioStatus updateScenarioRun
  apply map_find_updateWhere_of_write ScenarioRun.id ScenarioRun.status
  · intro run
    rfl
  · intro run
    rfl

end Actions

/-! ## One event -/

section Event

variable {now : Now} {stores : Stores} {runs rendered : List ScenarioRun} {eventId : String}

/-- The status of a log event without an aggregated result. -/
theorem runStatus_applyWorkflowStatus (event : WorkflowLogEvent)
    (executions : List WorkflowExecution) :
    runStatus (applyWorkflowStatus now event executions)
      = (((workflowStatusFromLogEvent event.scenarioId event.status).filter fun status =>
          status ≠ .pending ∧ status ≠ .partialFailed ∧ status ≠ .cleanupFailed).toList.map
            fun status => (event.workflowRunId, status)).foldl overwrite
              (runStatus executions) := by
  unfold applyWorkflowStatus
  cases workflowStatusFromLogEvent event.scenarioId event.status with
  | none => rfl
  | some status =>
      cases status with
      | running => exact runStatus_updateExecutionStatus _ _ _ _
      | cancelling => exact runStatus_updateExecutionStatus _ _ _ _
      | cancelled => exact runStatus_updateExecutionStatus _ _ _ _
      | completed => exact runStatus_updateExecutionStatus _ _ _ _
      | failed => exact runStatus_failExecution _ _
      | pending => rfl
      | partialFailed => rfl
      | cleanupFailed => rfl

/-- The scenario run of a log event. -/
theorem scenarioStatus_applyScenarioLog (event : WorkflowLogEvent) :
    scenarioStatus (applyScenarioLog now rendered event runs)
      = ((truthy event.scenarioId).toList.flatMap fun scenarioId =>
          scenarioWrite rendered event.workflowRunId scenarioId fun run =>
            resolveScenarioLogStatus run.status event.status).foldl overwrite
              (scenarioStatus runs) := by
  unfold applyScenarioLog scenarioWrite
  cases truthy event.scenarioId with
  | none => rfl
  | some scenarioId =>
      cases hfind : findScenarioRun event.workflowRunId scenarioId rendered with
      | none => simp [hfind]
      | some run => simp [hfind, scenarioStatus_updateScenarioRun]

/-- The loop over the aggregated scenario results. -/
theorem scenarioStatus_applyAggregated (workflowRunId : String)
    (results : List AggregatedScenarioResult) :
    scenarioStatus (results.foldl (applyAggregatedScenario now rendered workflowRunId) runs)
      = (results.flatMap fun result =>
          scenarioWrite rendered workflowRunId result.scenarioId fun run =>
            aggregatedScenarioStatus run result).foldl overwrite (scenarioStatus runs) := by
  induction results generalizing runs with
  | nil => rfl
  | cons result results ih =>
      rw [List.foldl_cons, ih, List.flatMap_cons, List.foldl_append]
      congr 1
      unfold applyAggregatedScenario scenarioWrite
      cases findScenarioRun workflowRunId result.scenarioId rendered with
      | none => rfl
      | some run => exact scenarioStatus_updateScenarioRun _ _

theorem applyLogEvent_statuses (event : WorkflowLogEvent) :
    runStatus (applyLogEvent now rendered eventId event stores).executions
      = (RealtimeEvent.log eventId event).runWrites.foldl overwrite
          (runStatus stores.executions) ∧
    scenarioStatus (applyLogEvent now rendered eventId event stores).scenarioRuns
      = ((RealtimeEvent.log eventId event).scenarioWrites rendered).foldl overwrite
          (scenarioStatus stores.scenarioRuns) := by
  have hmoved : runStatus (appendLog event.workflowRunId event.message
      (if eventId = "" then stores.executions
        else updateReplayCursor event.workflowRunId eventId stores.executions))
      = runStatus stores.executions := by
    split_ifs <;> simp
  unfold applyLogEvent
  cases haggregated : aggregatedStatus event with
  | some status =>
      -- an aggregated result counts only without a scenario
      have htruthy : truthy event.scenarioId = none := by
        unfold aggregatedStatus at haggregated
        split_ifs at haggregated with hscenario
        simpa using hscenario
      have hruns :
          applyScenarioLog now rendered event stores.scenarioRuns = stores.scenarioRuns := by
        simp [applyScenarioLog, htruthy]
      constructor
      · show runStatus (updateExecutionStatus ..) = _
        rw [runStatus_updateExecutionStatus, hmoved]
        simp [RealtimeEvent.runWrites, writtenStatus, haggregated]
      · show scenarioStatus (List.foldl ..) = _
        rw [hruns, scenarioStatus_applyAggregated]
        simp [RealtimeEvent.scenarioWrites, htruthy, haggregated]
  | none =>
      constructor
      · show runStatus (applyWorkflowStatus ..) = _
        rw [runStatus_applyWorkflowStatus, hmoved]
        simp [RealtimeEvent.runWrites, writtenStatus, haggregated]
      · show scenarioStatus (applyScenarioLog ..) = _
        rw [scenarioStatus_applyScenarioLog]
        cases htruthy : truthy event.scenarioId <;>
          simp [RealtimeEvent.scenarioWrites, htruthy, haggregated]

theorem applyResultEvent_statuses (event : ScenarioTestResultEvent) :
    runStatus (applyResultEvent now rendered eventId event stores).executions
      = runStatus stores.executions ∧
    scenarioStatus (applyResultEvent now rendered eventId event stores).scenarioRuns
      = ((RealtimeEvent.testResult eventId event).scenarioWrites rendered).foldl overwrite
          (scenarioStatus stores.scenarioRuns) := by
  simp only [applyResultEvent, RealtimeEvent.scenarioWrites, scenarioWrite]
  constructor
  · split_ifs <;> simp
  · cases findScenarioRun event.workflowRunId event.scenarioId rendered with
    | none => rfl
    | some run => exact scenarioStatus_updateScenarioRun _ _

end Event

/-! ## One step -/

/-- An event that was not processed. -/
theorem finalStatusesKept_once {key : String} {apply : Stores → Stores} {page : Page}
    {runWrites : List (String × WorkflowRunStatus)}
    {scenarioWrites : List (String × ScenarioRunStatus)}
    (hruns : runStatus (apply page.stores).executions
      = runWrites.foldl overwrite (runStatus page.stores.executions))
    (hscenarios : scenarioStatus (apply page.stores).scenarioRuns
      = scenarioWrites.foldl overwrite (scenarioStatus page.stores.scenarioRuns)) :
    FinalStatusesKept page.stores (page.once key apply).stores ↔
      (decide (key ∉ page.processedEventIds) &&
        (undoes WorkflowRunStatus.terminal (runStatus page.stores.executions) runWrites ||
          undoes ScenarioRunStatus.terminal (scenarioStatus page.stores.scenarioRuns)
            scenarioWrites)) = false := by
  unfold Page.once
  by_cases hkey : key ∈ page.processedEventIds
  · simp [hkey, FinalStatusesKept.refl]
  · simp only [hkey, if_false, not_false_eq_true, decide_true, Bool.true_and, Bool.or_eq_false_iff]
    rw [← Kept.overwrites_iff, ← Kept.overwrites_iff, ← hruns, ← hscenarios]
    exact ⟨fun h => ⟨h.runs, h.scenarioRuns⟩, fun h => ⟨h.1, h.2⟩⟩

/-- **A step keeps the final statuses** if and only if it writes no active status over one. -/
theorem finalStatusesKept_step (page : Page) (step : RealtimeStep) :
    FinalStatusesKept page.stores (step.apply page).stores ↔ step.reopens page = false := by
  cases step with
  | render => exact iff_of_true (.refl _) rfl
  | remount => exact iff_of_true (.refl _) rfl
  | receive now event =>
      cases event with
      | log eventId event =>
          obtain ⟨hruns, hscenarios⟩ :=
            @applyLogEvent_statuses now page.stores page.rendered eventId event
          exact finalStatusesKept_once hruns hscenarios
      | testResult eventId event =>
          obtain ⟨hruns, hscenarios⟩ :=
            @applyResultEvent_statuses now page.stores page.rendered eventId event
          -- no run is written
          have hnone : runStatus (applyResultEvent now page.rendered eventId event
              page.stores).executions = [].foldl overwrite (runStatus page.stores.executions) :=
            hruns
          exact finalStatusesKept_once hnone hscenarios
      | heartbeat => exact iff_of_true (.refl _) rfl

/-- Right after a render, the log of a scenario moves its run back only from "cancelled". -/
theorem scenarioLog_reopens_cancelled {page : Page} {now : Now} {eventId scenarioId : String}
    {event : WorkflowLogEvent} (hkeyed : Keyed ScenarioRun.id page.stores.scenarioRuns)
    (hrendered : page.rendered = page.stores.scenarioRuns)
    (hscenario : truthy event.scenarioId = some scenarioId)
    (h : (RealtimeStep.receive now (.log eventId event)).reopens page = true) :
    ∃ run ∈ page.stores.scenarioRuns, run.scenarioId = scenarioId ∧ run.status = .cancelled := by
  have hnone : writtenStatus event = none := by
    simp [writtenStatus, aggregatedStatus, workflowStatusFromLogEvent, hscenario]
  simp only [RealtimeStep.reopens, RealtimeEvent.runWrites, RealtimeEvent.scenarioWrites, hnone,
    hscenario, hrendered, scenarioWrite, Bool.and_eq_true, Bool.or_eq_true] at h
  obtain ⟨-, hundone | hundone⟩ := h
  · cases hundone
  · cases hfind : findScenarioRun event.workflowRunId scenarioId page.stores.scenarioRuns with
    | none => simp [hfind, undoes] at hundone
    | some run =>
        have hmem : run ∈ page.stores.scenarioRuns := List.mem_of_find?_eq_some hfind
        have hrun : run.workflowRunId = event.workflowRunId ∧ run.scenarioId = scenarioId := by
          simpa using List.find?_some hfind
        have hstored : scenarioStatus page.stores.scenarioRuns run.id = some run.status := by
          simp [scenarioStatus, hkeyed.find_mem hmem]
        refine ⟨run, hmem, hrun.2, ?_⟩
        simp only [hfind, undoes, lastWrite, hstored, Option.toList_some, List.map_cons,
          List.map_nil, List.any_cons, List.any_nil, resolveScenarioLogStatus] at hundone
        cases hstatus : run.status <;> simp [hstatus, ScenarioRunStatus.terminal] at hundone ⊢ <;>
          split_ifs at hundone <;> simp at hundone

/-! ## Every sequence of events -/

/-- **Final statuses stay final** between any two moments of a sequence of events, with duplicates
    and replays, if and only if no event writes an active status over one. -/
theorem final_statuses_absorbing (page : Page) (steps : List RealtimeStep) :
    (∀ i j, i ≤ j → FinalStatusesKept ((steps.take i).foldl RealtimeStep.apply page).stores
      ((steps.take j).foldl RealtimeStep.apply page).stores) ↔
      ∀ i (h : i < steps.length),
        steps[i].reopens ((steps.take i).foldl RealtimeStep.apply page) = false := by
  have hpairs := Trace.foldl_pairs_iff (f := RealtimeStep.apply)
    (r := fun page page' : Page => FinalStatusesKept page.stores page'.stores)
    (fun page => .refl page.stores) (fun h h' => h.trans h') page steps
  rw [hpairs]
  exact forall₂_congr fun i h => finalStatusesKept_step _ _

/-- The snapshot of a run that is over was stored while a log event of its start waits in the
    queue. -/
def finishedPage : Page :=
  { stores := { executions := [{ workflowRunId := "run", status := .completed }] } }

def queuedStart : List RealtimeStep :=
  [.render, .receive ⟨0, ""⟩ (.log "7"
    { workflowRunId := "run", message := "Workflow started", status := some "running"
      timestamp := 1, sequence := 1 })]

theorem queuedStart_reopens_run :
    ¬ ∀ (page : Page) (steps : List RealtimeStep) (i j : Nat), i ≤ j →
      FinalStatusesKept ((steps.take i).foldl RealtimeStep.apply page).stores
        ((steps.take j).foldl RealtimeStep.apply page).stores := by
  intro hall
  have hkept := (hall finishedPage queuedStart 0 2 (by decide)).runs "run" (by decide)
  have hrunning : runStatus
      ((queuedStart.take 2).foldl RealtimeStep.apply finishedPage).stores.executions "run"
        = some .running := by decide +kernel
  simp [hrunning, WorkflowRunStatus.terminal, isWorkflowRunActive] at hkept

end Realtime
end TokyoTester
