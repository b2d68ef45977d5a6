import TokyoTester.Runs.Execution

set_option autoImplicit false

/-! # Submitting a run (`workflow_service.go`, `Submit`)

A submission looks the run's job up, and when there is none stores the workflow and its scenarios
if they are missing, records what is about to be executed as a revision, and admits the job with
its encrypted request. Each of these is a transaction of its own. -/

namespace TokyoTester

/-- Why a submission fails. -/
inductive SubmitError where
  | panicked
  | store (e : DbError)
  | text (message : String)
deriving DecidableEq, Repr, Inhabited

/-- A payload that cannot be read, to the submitter. -/
def SubmitError.ofPayload : PayloadError → SubmitError
  | .panicked => .panicked
  | .text message => .text message

/-- What a submission returns. -/
structure Submitted where
  job : WorkflowJob
  created : Bool
  workflowRevisionId : String
deriving DecidableEq, Repr, Inhabited

namespace Submission

/-! ## The workflow and its scenarios -/

def nodesConfig (r : Request) : String := (Codec.slice FlowNode.codec).marshal r.nodes

def edgesConfig (r : Request) : String := (Codec.nilSlice FlowEdge.codec).marshal r.edges

def testsConfig (s : RunScenario) : String :=
  (Codec.slice ScenarioTestDefinition.codec).marshal s.tests

def testOrderConfig (s : RunScenario) : String := (Codec.slice Codec.string).marshal s.testOrder

/-- The workflow that a submission stores when there is none. -/
def newWorkflow (r : Request) (now : Time) : Workflow where
  id := r.workflowId
  projectId := r.projectId
  name := r.workflowName
  description := ""
  nodesConfig := nodesConfig r
  edgesConfig := edgesConfig r
  metadata := "\x7b\x7d"
  version := 1
  createdAt := now
  updatedAt := now
  clientId := r.clientId
  userId := firstNonEmpty [r.userId, "demo-user"]
  isDeleted := false

/-- The scenario that a submission stores when there is none. -/
def newScenario (r : Request) (s : RunScenario) (now : Time) : Scenario where
  id := s.id
  projectId := firstNonEmpty [s.projectId, r.projectId]
  workflowId := r.workflowId
  name := s.name
  description := s.description
  testsConfig := testsConfig s
  testOrder := testOrderConfig s
  metadata := "\x7b\x7d"
  version := 1
  createdAt := now
  updatedAt := now
  clientId := firstNonEmpty [s.clientId, r.clientId]
  userId := firstNonEmpty [s.userId, r.userId, "demo-user"]
  isDeleted := false

/-- The stored scenario, created when it is missing. -/
def ensureScenario (r : Request) (s : RunScenario) (now : Time) :
    Task (Except SubmitError Scenario) := do
  match ← Task.store false (.getScenario s.id) with
  | .ok persisted => pure (.ok persisted)
  | .error _ =>
    let persisted := newScenario r s now
    match ← Task.store false (.upsertScenario persisted) with
    | .ok _ => pure (.ok persisted)
    | .error e => pure (.error (.text ("scenario " ++ Text.quote s.name ++
        " must be synchronized before execution: " ++ e.message)))

/-- The loop of `ensureWorkflowGraphForRun`: the stored scenarios, in the request's order. -/
def ensureScenarios (r : Request) (now : Time) :
    List RunScenario → Task (Except SubmitError (List Scenario))
  | [] => pure (.ok [])
  | s :: rest => do
    match ← ensureScenario r s now with
    | .error e => pure (.error e)
    | .ok persisted =>
      if persisted.projectId ≠ r.projectId ∨ persisted.workflowId ≠ r.workflowId ∨
          (s.projectId ≠ "" ∧ s.projectId ≠ r.projectId) then
        pure (.error (.text ("scenario " ++ Text.quote s.name ++
          " does not belong to the requested workflow and project")))
      else
        match ← ensureScenarios r now rest with
        | .error e => pure (.error e)
        | .ok scenarios => pure (.ok (persisted :: scenarios))

/-- The stored workflow, created when it is missing. -/
def ensureWorkflow (r : Request) (now : Time) : Task (Except SubmitError Workflow) := do
  match ← Task.store false (.getWorkflow r.workflowId) with
  | .ok workflow =>
    if workflow.projectId ≠ r.projectId then
      pure (.error (.text "workflow does not belong to the requested project"))
    else pure (.ok workflow)
  | .error _ =>
    let workflow := newWorkflow r now
    match ← Task.store false (.upsertWorkflow workflow) with
    | .ok _ => pure (.ok workflow)
    | .error e => pure (.error (.text ("workflow must be synchronized before execution: " ++
        e.message)))

/-- `ensureWorkflowGraphForRun`. -/
def ensureWorkflowGraphForRun (r : Request) :
    Task (Except SubmitError (Workflow × List Scenario)) := do
  let now ← Task.now
  match ← ensureWorkflow r now with
  | .error e => pure (.error e)
  | .ok workflow =>
    match ← ensureScenarios r now r.scenarios with
    | .error e => pure (.error e)
    | .ok scenarios => pure (.ok (workflow, scenarios))

/-- What is about to be executed: the stored workflow and scenarios with the request's
    definitions. A scenario that is listed twice is the one stored last. -/
def executedSnapshot (r : Request) (workflow : Workflow) (scenarios : List Scenario) :
    WorkflowSnapshot where
  workflow := some { workflow with nodesConfig := nodesConfig r, edgesConfig := edgesConfig r }
  scenarios := r.scenarios.filterMap fun s =>
    (scenarios.reverse.find? fun p => p.id = s.id).map fun persisted =>
      { persisted with
        name := s.name, description := s.description, testsConfig := testsConfig s
        testOrder := testOrderConfig s }

/-- The revision of an execution; its id when it is stored. -/
def createRevision (r : Request) (workflow : Workflow) (scenarios : List Scenario) :
    Task (Except SubmitError String) := do
  let id ← Task.newId
  let now ← Task.now
  match ← Task.store false (.createWorkflowRevision
      { id, projectId := r.projectId, workflowId := r.workflowId, revisionNumber := 0
        workflowVersion := workflow.version, snapshot := executedSnapshot r workflow scenarios
        message := "Execution checkpoint", createdBy := firstNonEmpty [r.userId, "system"]
        createdAt := now }) with
  | .ok _ => pure (.ok id)
  | .error e => pure (.error (.text ("create execution revision: " ++ e.message)))

/-! ## The admission -/

/-- `estimateWorkflowCost`. -/
def estimateWorkflowCost (r : Request) : Int :=
  max 1 (r.nodes.length + (r.scenarios.map fun s => 1 + s.tests.length).sum : Nat)

/-- The job that a submission admits. -/
def newJob (S : WorkflowService) (r : Request) (nonce : Nonce) (now : Time) (id : String) :
    WorkflowJob where
  id := id
  workflowRunId := r.workflowRunId
  projectId := r.projectId
  userId := firstNonEmpty [r.userId, "demo-user"]
  requestHash := S.hashPayload r.payload
  payloadCiphertext := some (S.cipher.sealed nonce r.payload)
  payloadNonce := some nonce.1
  status := .pending
  priority := 0
  estimatedCost := estimateWorkflowCost r
  leaseOwner := none
  leaseExpiresAt := none
  heartbeatAt := none
  cancelRequestedAt := none
  cancelledAt := none
  cancelReason := none
  recoveryCount := 0
  lastError := none
  createdAt := now
  updatedAt := now
  startedAt := none
  completedAt := none

/-- The run that a submission admits. -/
def newRun (r : Request) (now : Time) : WorkflowRun where
  id := r.workflowRunId
  projectId := r.projectId
  workflowId := r.workflowId
  status := .pending
  summary := ""
  logs := ""
  error := ""
  startedAt := none
  completedAt := none
  metadata := Json.marshal (jsonMap
    [("scenario_run_ids", .arr (r.scenarios.map fun s => .str s.scenarioRunId)),
      ("workflow_revision_id", .str r.workflowRevisionId)])
  version := 1
  createdAt := now
  updatedAt := now
  clientId := r.clientId
  userId := firstNonEmpty [r.userId, "demo-user"]
  isDeleted := false

/-- The session that a submission admits for a scenario. -/
def pendingSession (r : Request) (now : Time) (s : RunScenario) : Session where
  id := s.scenarioRunId
  projectId := firstNonEmpty [s.projectId, r.projectId]
  workflowRunId := r.workflowRunId
  workflowId := r.workflowId
  scenarioId := s.id
  scenarioName := s.name
  backendSessionId := ""
  status := .pending
  result := ""
  containerIds := ""
  logs := ""
  error := ""
  startedAt := none
  completedAt := none
  ownerId := ""
  leaseExpiresAt := none
  heartbeatAt := none
  phase := .created
  checkpointIndex := 0
  serviceGraph := ""
  testPlan := ""
  runtimeSnapshot := ""
  version := 1
  createdAt := now
  updatedAt := now
  clientId := firstNonEmpty [s.clientId, r.clientId]
  userId := firstNonEmpty [s.userId, r.userId, "demo-user"]
  isDeleted := false

/-- The last part of `Submit`: the request is encrypted and its job admitted. -/
def admitRequest (S : WorkflowService) (r : Request) : Task (Except SubmitError Submitted) := do
  let nonce ← Program.perform Op.nonce
  let now ← Task.now
  let id ← Task.newId
  match ← Task.store false (.admitWorkflowJob (newJob S r nonce now id) (newRun r now)
      (r.scenarios.map (pendingSession r now)) S.config.policy) with
  | .ok (job, created) => pure (.ok { job, created, workflowRevisionId := r.workflowRevisionId })
  | .error e => pure (.error (.store e))

/-- The answer to a submission of a run that has a job: the job, if its request is this one. -/
def matchExisting (S : WorkflowService) (r : Request) (existing : WorkflowJob) :
    Except SubmitError Submitted :=
  match S.decodeJob existing with
  | .error e => .error (SubmitError.ofPayload e)
  | .ok submitted =>
    if S.hashPayload ({ submitted with workflowRevisionId := "" }).payload ≠
        S.hashPayload ({ r with workflowRevisionId := "" }).payload then
      .error (.text "workflow run id already exists with a different payload")
    else
      .ok { job := existing, created := false
            workflowRevisionId := submitted.workflowRevisionId }

/-- The part of `Submit` for a run that has no job yet. -/
def submitNew (S : WorkflowService) (r : Request) : Task (Except SubmitError Submitted) := do
  match ← ensureWorkflowGraphForRun r with
  | .error e => pure (.error e)
  | .ok (workflow, scenarios) =>
    match ← createRevision r workflow scenarios with
    | .error e => pure (.error e)
    | .ok revisionId => admitRequest S { r with workflowRevisionId := revisionId }

end Submission

/-- `Submit`. -/
def WorkflowService.submit (S : WorkflowService) (request : Request) :
    Task (Except SubmitError Submitted) :=
  match request.validate with
  | .error e => pure (.error (.text e))
  | .ok r => do
    match ← Task.store false (.getWorkflowJob r.workflowRunId) with
    | .ok existing => pure (Submission.matchExisting S r existing)
    | .error _ => Submission.submitNew S r

end TokyoTester
