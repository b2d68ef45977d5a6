import TokyoTester.Library.Renaming
import TokyoTester.Ui.Graph

set_option autoImplicit false

/-! # Workflow bundles in the UI (`ui-v2/src/modules/workflow/lib/workflow-bundle.ts`)

A workflow with its scenarios in the form it is exported, imported and cloned in. The checks that a
value is an object or an array are those of the types. `generateId` is the supply of new ids: its
`n`-th call gives `generateId n`, and whatever draws from it says how many calls there have been. -/

namespace TokyoTester

namespace Ui

/-! ## Types -/

/-- `WorkflowBundleWorkflow`. -/
structure BundleWorkflow where
  name : String
  description : Option String := none
  nodes : List FlowNode
  edges : List FlowEdge
deriving Inhabited

/-- `WorkflowBundleScenario`. -/
structure WorkflowBundleScenario where
  name : String
  description : Option String := none
  tests : List ScenarioTestDefinition
  testOrder : List String
deriving Inhabited

structure WorkflowBundle where
  schemaVersion : Int
  kind : String
  workflow : BundleWorkflow
  scenarios : List WorkflowBundleScenario
deriving Inhabited

structure ImportedWorkflowBundleData where
  workflow : BundleWorkflow
  scenarios : List WorkflowBundleScenario
deriving Inhabited

def workflowBundleSchemaVersion : Int := 2

def workflowBundleKind : String := "cots.workflow-bundle"

/-! ## Validation -/

/-- The checks of `validateWorkflowBundle` on an edge. -/
def checkEdge (edge : FlowEdge) : Except String Unit := do
  let data := edge.data.getD {}
  ensure (!truthy data.relation || data.relation.any edgeRelations.contains)
    ("Edge \"" ++ edge.id ++ "\" has an invalid relation.")
  ensure (!truthy data.readiness || data.readiness.any edgeReadinessOptions.contains)
    ("Edge \"" ++ edge.id ++ "\" has invalid readiness metadata.")

/-- The checks of `validateBundleScenario` on the retry policy of a test. -/
def checkRetryPolicy (test : ScenarioTestDefinition) : Except String Unit :=
  match test.retryPolicy with
  | none => .ok ()
  | some policy => do
    ensure (policy.mode = "transient" || policy.mode = "never")
      ("Test \"" ++ test.name ++ "\" has an invalid retry mode.")
    ensure (!(policy.mode = "never" && policy.idempotencyConfirmed))
      ("Test \"" ++ test.name ++ "\" cannot confirm idempotency when retries are disabled.")
    ensure (!(test.type = "delay" && policy.idempotencyConfirmed))
      ("Delay test \"" ++ test.name ++ "\" cannot enable retries.")

/-- `validateBundleScenario`. -/
def validateBundleScenario (scenario : WorkflowBundleScenario) (index : Nat) :
    Except String Unit := do
  let about := "Scenario \"" ++ scenario.name ++ "\" "
  ensure (trim scenario.name ≠ "")
    ("Scenario " ++ Text.decimal (index + 1) ++ " must include a name.")
  ensure (!scenario.tests.isEmpty) (about ++ "must include at least one test.")
  let testIds := scenario.tests.map (·.id)
  let uniqueTestIds := testIds.dedup
  ensure (uniqueTestIds.length = testIds.length) (about ++ "contains duplicate test ids.")
  let orderIds := scenario.testOrder
  ensure (orderIds.dedup.length = orderIds.length) (about ++ "contains duplicate testOrder ids.")
  ensure (orderIds.length = testIds.length)
    (about ++ "testOrder must include every test exactly once.")
  orderIds.forM fun testId =>
    ensure (uniqueTestIds.contains testId)
      (about ++ "testOrder references unknown test \"" ++ testId ++ "\".")
  scenario.tests.forM checkRetryPolicy

/-- The loop over the scenarios. -/
def validateScenarios (nodeNames : List String) :
    Nat → List WorkflowBundleScenario → Except String Unit
  | _, [] => .ok ()
  | index, scenario :: scenarios => do
    validateBundleScenario scenario index
    let errors := scenarioErrors nodeNames scenario.name scenario.tests
    ensure errors.isEmpty (Text.join "; " (errors.map (·.message)))
    validateScenarios nodeNames (index + 1) scenarios

/-- `validateWorkflowBundle`. -/
def validateWorkflowBundle (bundle : WorkflowBundle) : Except String Unit := do
  ensure (bundle.schemaVersion = 1 || bundle.schemaVersion = 2)
    ("Unsupported workflow bundle schema version: " ++ Text.decimal bundle.schemaVersion ++ ".")
  ensure (bundle.kind = workflowBundleKind) "Workflow bundle kind must be cots.workflow-bundle."
  ensure (trim bundle.workflow.name ≠ "") "Workflow bundle must include a workflow name."
  bundle.workflow.edges.forM checkEdge
  ensure (!bundle.scenarios.isEmpty) "Workflow bundle must include at least one scenario."
  let errors := graphErrors bundle.workflow.nodes bundle.workflow.edges
  ensure errors.isEmpty (Text.join "; " (errors.map (·.message)))
  validateScenarios (serviceNames bundle.workflow.nodes) 0 bundle.scenarios

/-! ## Export -/

/-- The properties of React Flow that `sanitizeNodesForBundle` copies. -/
def nodeProperties : List String :=
  ["type", "position", "selected", "dragging", "zIndex", "hidden", "deletable", "draggable",
    "selectable", "connectable", "resizing", "width", "height", "parentId", "extent",
    "expandParent", "sourcePosition", "targetPosition", "style", "className", "ariaLabel",
    "focusable"]

/-- The service of `sanitizeNodesForBundle`, property by property. -/
def sanitizeService (service : ServiceDefinition) : ServiceDefinition where
  type := service.type
  image := service.image
  command := service.command
  ports := service.ports
  env := service.env
  waitStratergy := service.waitStratergy
  initScripts := service.initScripts
  mockServer := service.mockServer

/-- One node of `sanitizeNodesForBundle`. -/
def sanitizeNode (node : FlowNode) : FlowNode where
  id := node.id
  view := node.view.filter fun property => nodeProperties.contains property.1
  data := {
    label := node.data.label
    description := node.data.description
    service := sanitizeService node.data.service
    tests := none }

def sanitizeNodesForBundle (nodes : List FlowNode) : List FlowNode := nodes.map sanitizeNode

/-- The data that `sanitizeEdgesForBundle` keeps of an edge. -/
def sanitizeEdgeData (data : EdgeData) : EdgeData where
  relation := data.relation
  readiness := data.readiness
  label := data.label
  description := data.description
  protocol := data.protocol
  needsReview := data.needsReview

def sanitizeEdgesForBundle (edges : List FlowEdge) : List FlowEdge :=
  (normalizeEdges edges).map fun edge => { edge with data := edge.data.map sanitizeEdgeData }

/-- `createWorkflowBundle` before it validates what it has made. -/
def exportedBundle (workflow : BundleWorkflow) (scenarios : List WorkflowBundleScenario) :
    WorkflowBundle where
  schemaVersion := workflowBundleSchemaVersion
  kind := workflowBundleKind
  workflow := {
    name := workflow.name
    description := some (workflow.description.getD "")
    nodes := sanitizeNodesForBundle workflow.nodes
    edges := sanitizeEdgesForBundle workflow.edges }
  scenarios := scenarios.map fun scenario => {
    name := scenario.name
    description := some (scenario.description.getD "")
    tests := scenario.tests
    testOrder := scenario.testOrder }

/-- `createWorkflowBundle`. -/
def createWorkflowBundle (workflow : BundleWorkflow) (scenarios : List WorkflowBundleScenario) :
    Except String WorkflowBundle := do
  let bundle := exportedBundle workflow scenarios
  validateWorkflowBundle bundle
  .ok bundle

/-! ## Import -/

/-- `normalizeWorkflowBundle`. -/
def normalizeWorkflowBundle (bundle : WorkflowBundle) : WorkflowBundle :=
  { bundle with
    schemaVersion := workflowBundleSchemaVersion
    workflow := { bundle.workflow with
      edges := normalizeEdges bundle.workflow.edges (bundle.schemaVersion = 1) } }

/-- `parseWorkflowBundle` on what `JSON.parse` gives. -/
def parseWorkflowBundle (parsed : Option WorkflowBundle) : Except String WorkflowBundle := do
  let bundle ← match parsed with
    | some bundle => .ok bundle
    | none => .error "Workflow bundle is not valid JSON."
  validateWorkflowBundle bundle
  .ok (normalizeWorkflowBundle bundle)

/-- The name with a number after it. -/
def numberedName (trimmed : String) : ℕ ↪ String where
  toFun suffix := trimmed ++ " " ++ Json.intLiteral suffix
  inj' := by
    intro a b hab
    have htext : Json.intLiteral a = Json.intLiteral b := (String.append_right_inj _).1 hab
    have hread := congrArg Json.intOfLiteral htext
    rw [Json.intOfLiteral_intLiteral, Json.intOfLiteral_intLiteral] at hread
    exact Int.ofNat_inj.1 (Option.some.inj hread)

/-- `getUniqueWorkflowName`. -/
def getUniqueWorkflowName (baseName : String) (existingWorkflowNames : List String) : String :=
  let trimmed := if trim baseName = "" then "Imported Workflow" else trim baseName
  if trimmed ∉ existingWorkflowNames then trimmed
  else
    numberedName trimmed (Renaming.firstFree existingWorkflowNames (numberedName trimmed) 2)

/-- A lookup in the map of the new ids; an empty id counts as missing. -/
def newId (idMap : GoMap String) (id : String) : Option String :=
  (idMap.get? id).filter (· ≠ "")

/-- The loop of `cloneScenarioForImport` over the tests. -/
def cloneTests (generateId : ℕ → String) (idMap : GoMap String) :
    ℕ → List ScenarioTestDefinition → List ScenarioTestDefinition × ℕ
  | calls, [] => ([], calls)
  | calls, test :: tests =>
    let dependsOnTestIds := some ((test.dependsOnTestIds.getD []).filterMap (newId idMap))
    match newId idMap test.id with
    | some id =>
      let rest := cloneTests generateId idMap calls tests
      ({ test with id, dependsOnTestIds } :: rest.1, rest.2)
    | none =>
      let rest := cloneTests generateId idMap (calls + 1) tests
      ({ test with id := generateId calls, dependsOnTestIds } :: rest.1, rest.2)

/-- `cloneScenarioForImport`. -/
def cloneScenarioForImport (generateId : ℕ → String) (calls : ℕ)
    (scenario : WorkflowBundleScenario) : WorkflowBundleScenario × ℕ :=
  let idMap := Renaming.assign generateId (scenario.tests.map (·.id)) calls
  let cloned := cloneTests generateId idMap (calls + scenario.tests.length) scenario.tests
  ({ name := scenario.name
     description := some (scenario.description.getD "")
     tests := cloned.1
     testOrder := scenario.testOrder.filterMap (newId idMap) }, cloned.2)

/-- The scenarios of `materializeWorkflowBundle`. -/
def cloneScenarios (generateId : ℕ → String) :
    ℕ → List WorkflowBundleScenario → List WorkflowBundleScenario × ℕ
  | calls, [] => ([], calls)
  | calls, scenario :: scenarios =>
    let cloned := cloneScenarioForImport generateId calls scenario
    let rest := cloneScenarios generateId cloned.2 scenarios
    (cloned.1 :: rest.1, rest.2)

/-- `materializeWorkflowBundle`. -/
def materializeWorkflowBundle (generateId : ℕ → String) (calls : ℕ) (bundle : WorkflowBundle)
    (existingWorkflowNames : List String) : Except String (ImportedWorkflowBundleData × ℕ) := do
  validateWorkflowBundle bundle
  let cloned := cloneScenarios generateId calls bundle.scenarios
  .ok ({ workflow := {
           name := getUniqueWorkflowName bundle.workflow.name existingWorkflowNames
           description := some (bundle.workflow.description.getD "")
           nodes := sanitizeNodesForBundle bundle.workflow.nodes
           edges := normalizeEdges bundle.workflow.edges (bundle.schemaVersion = 1) }
         scenarios := cloned.1 }, cloned.2)

/-- `createClonedWorkflowBundle`. -/
def createClonedWorkflowBundle (generateId : ℕ → String) (calls : ℕ) (workflow : BundleWorkflow)
    (scenarios : List WorkflowBundleScenario) (existingWorkflowNames : List String) :
    Except String (ImportedWorkflowBundleData × ℕ) := do
  let bundle ← createWorkflowBundle workflow scenarios
  let materialized ← materializeWorkflowBundle generateId calls bundle existingWorkflowNames
  .ok ({ materialized.1 with
    workflow := { materialized.1.workflow with
      name := getUniqueWorkflowName (workflow.name ++ " Copy") existingWorkflowNames } },
    materialized.2)

end Ui

end TokyoTester
