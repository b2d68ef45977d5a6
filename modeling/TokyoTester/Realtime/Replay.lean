import TokyoTester.Library.Trace
import TokyoTester.Realtime.Stores

set_option autoImplicit false

/-! # The event stream in the browser (`useRealtimeLogs`)

A page, its two queues, its connection, and the events of the runs that the server has stored. A
connection starts after the cursor of the run's execution; events are put into a queue each for logs
and for test results, and the two effects take the heads of these queues. Each of them moves the one
cursor. The execution store is written to the browser's storage and read again when the page is
reloaded. -/

namespace TokyoTester
namespace Realtime

open Table

/-! ## Stored events -/

inductive Payload where
  | log (event : WorkflowLogEvent)
  | testResult (event : ScenarioTestResultEvent)
  /-- A payload that `JSON.parse` does not read. -/
  | unreadable

/-- The key under which an event counts as processed. -/
def Payload.key : Payload → Option String
  | .log event => some (logKey event)
  | .testResult event => some event.bulkId
  | .unreadable => none

/-- The payload is about the run. -/
def Payload.isOf (workflowRunId : String) : Payload → Bool
  | .log event => event.workflowRunId = workflowRunId
  | .testResult event => event.workflowRunId = workflowRunId
  | .unreadable => true

/-- An event in the server's table. -/
structure StoredEvent where
  id : Nat
  workflowRunId : String
  payload : Payload

/-- The id of an event in the stream. -/
def eventIdText (id : Nat) : String := Json.intLiteral id

/-- An event in a queue. -/
structure Queued (α : Type) where
  data : α
  eventId : String

/-! ## Pages -/

/-- `applied` keeps the run and the id of each event that an effect has applied to the execution in
    the store. It is no part of the page: it is what the cursor is measured against, and is saved
    and restored with the executions. -/
structure World where
  events : List StoredEvent := []
  page : Page := {}
  applied : List (String × String) := []
  savedExecutions : List WorkflowExecution := []
  savedApplied : List (String × String) := []
  /-- The run that the hook shows (`resolvedWorkflowRunId`). -/
  run : Option String := none
  runnerLogQueue : List (Queued WorkflowLogEvent) := []
  runnerResultQueue : List (Queued ScenarioTestResultEvent) := []
  /-- The id of the last event of the connection, if one is open. -/
  position : Option Int := none

/-- The `after` cursor of a run in an execution store. -/
def cursorOf (executions : List WorkflowExecution) (workflowRunId : String) : Option Int :=
  (find WorkflowExecution.workflowRunId workflowRunId executions).bind fun execution =>
    (truthy execution.lastEventId).bind bigInt

/-- What waits in the two queues. -/
def World.waiting (w : World) : List (String × Payload) :=
  w.runnerLogQueue.map (fun queued => (queued.eventId, .log queued.data)) ++
    w.runnerResultQueue.map fun queued => (queued.eventId, .testResult queued.data)

/-! ## Store actions beside those of the effects -/

def startExecution (workflowRunId : String) (executions : List WorkflowExecution) :
    List WorkflowExecution :=
  let execution : WorkflowExecution := { workflowRunId }
  upsert WorkflowExecution.workflowRunId execution (fun _ => execution) executions

def upsertExecutionFromSync (execution : WorkflowExecution)
    (executions : List WorkflowExecution) : List WorkflowExecution :=
  upsert WorkflowExecution.workflowRunId { execution with lastEventId := none }
    (fun existing => { execution with lastEventId := existing.lastEventId }) executions

def upsertScenarioRunFromSync (runs : List ScenarioRun) (run : ScenarioRun) : List ScenarioRun :=
  upsert ScenarioRun.id run (fun _ => run) runs

def upsertTestResultFromSync (results : List TestResult) (result : TestResult) :
    List TestResult :=
  upsert TestResult.id result (fun _ => result) results

/-- `hydrateWorkflowRunSnapshot`. -/
def hydrateWorkflowRunSnapshot (execution : WorkflowExecution) (scenarioRuns : List ScenarioRun)
    (testResults : List TestResult) (stores : Stores) : Stores where
  executions := upsertExecutionFromSync execution stores.executions
  scenarioRuns := scenarioRuns.foldl upsertScenarioRunFromSync stores.scenarioRuns
  testResults := testResults.foldl upsertTestResultFromSync stores.testResults

/-! ## Steps -/

inductive Label where
  /-- An event becomes visible in the server's table. -/
  | store (event : StoredEvent)
  | start (workflowRunId : String)
  | hydrate (execution : WorkflowExecution) (scenarioRuns : List ScenarioRun)
      (testResults : List TestResult)
  /-- The execution store is written to the browser's storage. -/
  | persist
  /-- The page is loaded again, and its stores are read from there. -/
  | reload (scenarioRuns : List ScenarioRun) (testResults : List TestResult)
  /-- The hook is mounted for a run, or shows another one. -/
  | mount (workflowRunId : String)
  | connect
  | disconnect
  /-- The connection hands over an event. -/
  | deliver (id : Nat)
  | render
  | processLog (now : Now)
  | processResult (now : Now)

namespace World

/-- The hook without queues, keys and connection. -/
def cleared (w : World) (run : Option String) : World :=
  { w with
    run, position := none, runnerLogQueue := [], runnerResultQueue := []
    page := { w.page with processedEventIds := [] } }

/-- An event at the end of its queue, which keeps the last 500. -/
def pushed {α : Type} (queue : List (Queued α)) (data : α) (id : Nat) : List (Queued α) :=
  let queued : Queued α := { data, eventId := eventIdText id }
  (queue ++ [queued]).rtake 500

/-- The event is put into its queue. -/
def enqueue (event : StoredEvent) (w : World) : World :=
  { w with
    runnerLogQueue := match event.payload with
      | .log data => pushed w.runnerLogQueue data event.id
      | _ => w.runnerLogQueue
    runnerResultQueue := match event.payload with
      | .testResult data => pushed w.runnerResultQueue data event.id
      | _ => w.runnerResultQueue }

/-- The events that are applied when an effect takes one: it was not processed, and there is an
    execution to apply it to. -/
def appliedWith (w : World) (key workflowRunId eventId : String) : List (String × String) :=
  if key ∉ w.page.processedEventIds ∧
      (find WorkflowExecution.workflowRunId workflowRunId w.page.stores.executions).isSome then
    (workflowRunId, eventId) :: w.applied
  else w.applied

def step (w : World) : Label → Option World
  | .store event =>
    if 0 < event.id ∧ (∀ e ∈ w.events, e.id ≠ event.id) ∧
        event.payload.isOf event.workflowRunId then
      some { w with events := w.events ++ [event] }
    else none
  | .start workflowRunId =>
    some { w with page := { w.page with stores := { w.page.stores with
      executions := startExecution workflowRunId w.page.stores.executions } } }
  | .hydrate execution scenarioRuns testResults =>
    some { w with page := { w.page with
      stores := hydrateWorkflowRunSnapshot execution scenarioRuns testResults w.page.stores } }
  | .persist =>
    some { w with savedExecutions := w.page.stores.executions, savedApplied := w.applied }
  | .reload scenarioRuns testResults =>
    some { w.cleared none with
      applied := w.savedApplied
      page := { stores := { executions := w.savedExecutions, scenarioRuns, testResults } } }
  | .mount workflowRunId => some (w.cleared (some workflowRunId))
  | .connect =>
    w.run.bind fun run =>
      (find WorkflowExecution.workflowRunId run w.page.stores.executions).bind fun execution =>
        if isWorkflowRunActive execution.status then
          some { w with position := some ((cursorOf w.page.stores.executions run).getD 0) }
        else none
  | .disconnect => some { w with position := none }
  | .deliver id =>
    match w.run, w.position with
    | some run, some position =>
      (w.events.find? fun e => e.id = id && e.workflowRunId = run && position < (e.id : Int)).map
        fun event => { w.enqueue event with position := some id }
    | _, _ => none
  | .render => some { w with page := { w.page with rendered := w.page.stores.scenarioRuns } }
  | .processLog now =>
    match w.runnerLogQueue with
    | [] => none
    | queued :: rest =>
      some { w with
        page := applyLog now queued.eventId queued.data w.page
        applied := w.appliedWith (logKey queued.data) queued.data.workflowRunId queued.eventId
        runnerLogQueue := rest }
  | .processResult now =>
    match w.runnerResultQueue with
    | [] => none
    | queued :: rest =>
      some { w with
        page := applyResults now queued.eventId queued.data w.page
        applied := w.appliedWith queued.data.bulkId queued.data.workflowRunId queued.eventId
        runnerResultQueue := rest }

/-! ## The cursor -/

/-- **The cursor is safe**: the stored events of the shown run up to the cursor that a connection
    would start after have been applied. -/
def CursorSafe (w : World) : Prop :=
  ∀ run cursor, w.run = some run → cursorOf w.page.stores.executions run = some cursor →
    ∀ event ∈ w.events, event.workflowRunId = run → (event.id : Int) ≤ cursor →
      (run, eventIdText event.id) ∈ w.applied

/-- What the page knows of a run's events: the cursors, and what the connection handed over. -/
def seen (w : World) (workflowRunId : String) : List Int :=
  (cursorOf w.page.stores.executions workflowRunId).toList ++
    (cursorOf w.savedExecutions workflowRunId).toList ++
      if w.run = some workflowRunId then
        w.position.toList ++ w.waiting.filterMap fun entry => bigInt entry.1
      else []

/-- What waits below an event has been processed. -/
def nothingBelow (w : World) (eventId : String) : Bool :=
  w.waiting.all fun entry =>
    !((bigInt entry.1).any fun m => (bigInt eventId).any fun n => m < n) ||
      entry.2.key.any fun key => key ∈ w.page.processedEventIds

/-- The payload of an event is read, and its queue has room for it. -/
def hasRoom (w : World) (event : StoredEvent) : Bool :=
  match event.payload with
  | .log _ => w.runnerLogQueue.length < 500
  | .testResult _ => w.runnerResultQueue.length < 500
  | .unreadable => false

/-- The step neither loses an event nor takes one before its turn. -/
def inOrder (w : World) : Label → Bool
  | .store event =>
    -- the event is the newest one, and its key is its own
    (w.seen event.workflowRunId).all (fun n => n < event.id) &&
      w.events.all fun e =>
        e.workflowRunId ≠ event.workflowRunId || e.payload.key ≠ event.payload.key ||
          e.payload.key = none
  | .deliver id =>
    -- it is the next one, it is read, and its queue has room
    w.events.all fun e =>
      w.run ≠ some e.workflowRunId || w.position.all (fun position => (e.id : Int) ≤ position) ||
        if e.id = id then w.hasRoom e else id < e.id
  | .processLog _ =>
    match w.runnerLogQueue with
    | [] => true
    | queued :: _ =>
      logKey queued.data ∈ w.page.processedEventIds || w.nothingBelow queued.eventId
  | .processResult _ =>
    match w.runnerResultQueue with
    | [] => true
    | queued :: _ =>
      queued.data.bulkId ∈ w.page.processedEventIds || w.nothingBelow queued.eventId
  | _ => true

end World

end Realtime
end TokyoTester
