import TokyoTester.Bundle.Translation

set_option autoImplicit false

/-! # Workflow run requests (`pkg/workflowrun/request.go`)

What a client submits: a workflow, the scenarios to run and the registry secrets of its services.
`Request.validate` migrates the edges of the request in place: the bundle shares its slice of
edges. -/

namespace TokyoTester

open Codec Codec.Fields

/-- `workflowrun.Scenario`. -/
structure RunScenario where
  id : String := ""
  scenarioRunId : String := ""
  projectId : String := ""
  name : String := ""
  description : String := ""
  tests : List ScenarioTestDefinition := []
  testOrder : List String := []
  userId : String := ""
  clientId : String := ""
deriving Inhabited

def RunScenario.codec : Codec RunScenario :=
  struct
    (cons "id" false string (·.id) <|
      cons "scenarioRunId" false string (·.scenarioRunId) <|
      cons "projectId" false string (·.projectId) <|
      cons "name" false string (·.name) <|
      cons "description" true string (·.description) <|
      cons "tests" false (slice ScenarioTestDefinition.codec) (·.tests) <|
      cons "testOrder" false (slice string) (·.testOrder) <|
      cons "user_id" true string (·.userId) <|
      cons "client_id" true string (·.clientId) nil)
    {} (fun (id, scenarioRunId, projectId, name, description, tests, testOrder, userId, clientId,
        _) =>
      { id, scenarioRunId, projectId, name, description, tests, testOrder, userId, clientId })
    (fun _ => rfl) (by decide +kernel)

/-- `ExecutionOptions`. -/
structure ExecutionOptions where
  continueOnFailure : Bool := false
deriving DecidableEq, Repr, Inhabited

def ExecutionOptions.codec : Codec ExecutionOptions :=
  struct
    (cons "continueOnFailure" false bool (·.continueOnFailure) nil)
    {} (fun (continueOnFailure, _) => { continueOnFailure })
    (fun _ => rfl) (by decide +kernel)

/-- `workflowrun.Request`. -/
structure Request where
  workflowRunId : String := ""
  workflowRevisionId : String := ""
  projectId : String := ""
  workflowId : String := ""
  workflowName : String := ""
  nodes : List FlowNode := []
  edges : Option (List FlowEdge) := none
  scenarios : List RunScenario := []
  userId : String := ""
  clientId : String := ""
  registrySecrets : GoMap RegistryConfig := .empty
  executionOptions : ExecutionOptions := {}
deriving Inhabited

def Request.codec : Codec Request :=
  struct
    (cons "workflowRunId" false string (·.workflowRunId) <|
      cons "workflowRevisionId" true string (·.workflowRevisionId) <|
      cons "projectId" false string (·.projectId) <|
      cons "workflowId" false string (·.workflowId) <|
      cons "workflowName" false string (·.workflowName) <|
      cons "nodes" false (slice FlowNode.codec) (·.nodes) <|
      cons "edges" false (nilSlice FlowEdge.codec) (·.edges) <|
      cons "scenarios" false (slice RunScenario.codec) (·.scenarios) <|
      cons "userId" true string (·.userId) <|
      cons "clientId" true string (·.clientId) <|
      cons "registrySecrets" true (map RegistryConfig.codec) (·.registrySecrets) <|
      cons "executionOptions" true ExecutionOptions.codec (·.executionOptions) nil)
    {} (fun (workflowRunId, workflowRevisionId, projectId, workflowId, workflowName, nodes, edges,
        scenarios, userId, clientId, registrySecrets, executionOptions, _) =>
      { workflowRunId, workflowRevisionId, projectId, workflowId, workflowName, nodes, edges
        scenarios, userId, clientId, registrySecrets, executionOptions })
    (fun _ => rfl) (by decide +kernel)

namespace Request

/-! ## The bundle of a request -/

/-- The registry secret of a node: by its service name, its label or its id. -/
def registrySecret (r : Request) (node : FlowNode) : Option RegistryConfig :=
  ((r.registrySecrets.get? (sanitizeName node.data.label)).or
    ((r.registrySecrets.get? node.data.label).or (r.registrySecrets.get? node.id))).filter
      fun secret => nonBlank secret.url

/-- A node with its registry secret. -/
def attachSecret (r : Request) (node : FlowNode) : FlowNode :=
  match r.registrySecret node with
  | some secret =>
    { node with data := { node.data with
      service := { node.data.service with registry := some secret } } }
  | none => node

def bundleScenario (s : RunScenario) : BundleScenario :=
  { name := s.name, description := s.description, tests := s.tests, testOrder := s.testOrder }

/-- The bundle that `Bundle` builds before it validates it. -/
def rawBundle (r : Request) : Bundle where
  schemaVersion := TokyoTester.schemaVersion
  kind := bundleKind
  workflow :=
    { name := r.workflowName, nodes := r.nodes.map r.attachSecret, edges := r.edges }
  scenarios := r.scenarios.map bundleScenario

/-- `Bundle`. -/
def bundle (r : Request) : Except String Bundle := r.rawBundle.validate

/-! ## Validation -/

/-- The loop of `Validate` over the scenarios. -/
def validateRunScenarios : List String → List RunScenario → Except String Unit
  | _, [] => .ok ()
  | seen, s :: rest => do
    ensure (s.id ≠ "" && s.scenarioRunId ≠ "" && s.name ≠ "")
      "every scenario requires id, scenarioRunId, and name"
    ensure (!seen.contains s.scenarioRunId)
      ("duplicate scenarioRunId " ++ Text.quote s.scenarioRunId)
    validateRunScenarios (s.scenarioRunId :: seen) rest

/-- `Validate`: the request with its edges migrated. -/
def validate (r : Request) : Except String Request := do
  ensure (nonBlank r.workflowRunId && nonBlank r.workflowId && nonBlank r.projectId)
    "workflowRunId, workflowId, and projectId are required"
  ensure (!r.scenarios.isEmpty) "at least one scenario is required"
  validateRunScenarios [] r.scenarios
  let b ← r.bundle
  .ok { r with edges := b.workflow.edges }

end Request

end TokyoTester
