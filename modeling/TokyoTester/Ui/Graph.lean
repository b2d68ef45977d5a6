import TokyoTester.Bundle.Cycles
import TokyoTester.Translator.Names
import TokyoTester.Ui.EdgeModel

set_option autoImplicit false

/-! # Workflow graphs and scenarios in the UI (`ui-v2/src/modules/utils/scenario-translator.ts`)

What the builder checks before it saves, exports or imports a workflow. The validators collect
their errors and never stop at the first one. Values that are only passed on (ports, environment,
wait strategy, scripts, mock expectations) have the types of the runner's bundle, which writes
them the same way. -/

namespace TokyoTester

namespace Ui

/-! ## Types (`ui-v2/src/modules/workflow/types/react-flow-cots.ts`) -/

/-- The registry of a service: its secrets are kept elsewhere. -/
structure Registry where
  url : String
  authType : String
deriving DecidableEq, Repr

/-- `service` of `ServiceNodeData`. -/
structure ServiceDefinition where
  type : String
  image : Option String := none
  command : Option (List String) := none
  ports : Option (List PortMapping) := none
  env : Option (List EnvironmentVariable) := none
  waitStratergy : Option WaitStrategyState := none
  initScripts : Option (List InitScript) := none
  mockServer : Option MockServerServiceConfig := none
  registry : Option Registry := none
deriving Inhabited

/-- `ScenarioTestDefinition`. The seven configurations, of which a test has the one of its type,
    are in `configs`. -/
structure ScenarioTestDefinition where
  id : String
  name : String
  type : String
  targetServices : List String
  dependsOnTestIds : Option (List String) := none
  retryPolicy : Option RetryPolicy := none
  configs : List (String × Json) := []
deriving Inhabited

/-- `ServiceNodeData`. -/
structure ServiceNodeData where
  label : String
  description : Option String := none
  service : ServiceDefinition
  tests : Option (List ScenarioTestDefinition) := none
deriving Inhabited

/-- `FlowNode`. What React Flow keeps of a node besides its id and data is in `view`. -/
structure FlowNode where
  id : String
  view : List (String × Json) := []
  data : ServiceNodeData
deriving Inhabited

/-- `TranslationError`, of a graph. -/
structure GraphError where
  nodeId : Option String := none
  message : String
  field : Option String := none
deriving DecidableEq, Repr

/-! ## Texts -/

/-- White space and line terminators of ECMAScript. -/
def isWhiteSpace (c : Char) : Bool :=
  let n := c.toNat
  (9 ≤ n && n ≤ 13) || (0x2000 ≤ n && n ≤ 0x200A) ||
    [0x20, 0xA0, 0x1680, 0x2028, 0x2029, 0x202F, 0x205F, 0x3000, 0xFEFF].contains n

def trim (s : String) : String := String.ofList (Text.trim isWhiteSpace s.toList)

/-- `toLowerCase`, but for the sigma that ends a word. -/
def toLowerCase (s : String) : String := String.ofList (s.toList.flatMap Translator.lowerCaseChar)

/-- The first groups of the matches of `/\$\{([^}.]+)\.[^}]+\}/g`. -/
def runtimeTokens : Nat → List Char → List String
  | 0, _ => []
  | _, [] => []
  | fuel + 1, c :: cs =>
    match c, cs with
    | '$', '\x7b' :: rest =>
      let body := rest.takeWhile (· ≠ '\x7d')
      let token := body.takeWhile (· ≠ '.')
      if body.length < rest.length ∧ token ≠ [] ∧ token.length + 1 < body.length then
        String.ofList token :: runtimeTokens fuel (rest.drop (body.length + 1))
      else runtimeTokens fuel cs
    | _, _ => runtimeTokens fuel cs

/-! ## The readiness graph -/

def serviceNames (nodes : List FlowNode) : List String :=
  nodes.map fun node => Translator.sanitizeName node.data.label

/-- `buildNodeMap`: a later node with the same id replaces an earlier one. -/
def findNode (nodes : List FlowNode) (id : String) : Option FlowNode :=
  nodes.reverse.find? fun node => node.id = id

/-- One edge of `buildServiceDependencies`. -/
def addDependency (nodes : List FlowNode) (graph : ServiceDeps) (rawEdge : FlowEdge) :
    ServiceDeps :=
  let edge := normalizeEdge rawEdge
  let readiness := edge.data.bind (·.readiness)
  match findNode nodes edge.source, findNode nodes edge.target with
  | some source, some target =>
    let sourceName := Translator.sanitizeName source.data.label
    let targetName := Translator.sanitizeName target.data.label
    if readiness = some "source_requires_target" then
      GoMap.set graph sourceName (appendUnique (prerequisites graph sourceName) targetName)
    else if readiness = some "target_requires_source" then
      GoMap.set graph targetName (appendUnique (prerequisites graph targetName) sourceName)
    else graph
  | _, _ => graph

/-- `buildServiceDependencies`. -/
def buildServiceDependencies (nodes : List FlowNode) (edges : List FlowEdge) : ServiceDeps :=
  edges.foldl (addDependency nodes) (GoMap.ofList ((serviceNames nodes).map fun name => (name, [])))

/-- `buildServiceAliasMap`. -/
def buildServiceAliasMap (nodes : List FlowNode) : GoMap String :=
  GoMap.ofList (nodes.flatMap fun node =>
    let label := node.data.label
    let sanitized := Translator.sanitizeName (if label = "" then node.id else label)
    let candidates := [label, node.id, sanitized, trim label, trim node.id]
    (candidates.filter (· ≠ "")).flatMap fun candidate =>
      [(candidate, sanitized), (toLowerCase candidate, sanitized)])

/-- `validateRuntimeReferenceReadiness` for one node. -/
def referenceErrors (aliases : GoMap String) (graph : ServiceDeps) (node : FlowNode) :
    List GraphError :=
  let service := node.data.service
  let serviceName := Translator.sanitizeName node.data.label
  let values := service.command.getD [] ++ (service.env.getD []).map (·.value) ++
    (service.initScripts.getD []).map (·.script)
  let referenced := (values.flatMap fun value => runtimeTokens value.length value.toList).map
    fun token => ((aliases.get? token).or (aliases.get? (toLowerCase token))).getD ""
  (referenced.filter fun name =>
      name ≠ "" && name ≠ serviceName && !(reachable graph serviceName).contains name).map
    fun name =>
      { nodeId := some node.id
        field := some "service"
        message := "Service \"" ++ serviceName ++ "\" references runtime values from \"" ++ name ++
          "\" without a readiness prerequisite." }

/-! ## `validateWorkflowGraph` -/

/-- An error when the condition fails. -/
def reportUnless (ok : Bool) (error : GraphError) : List GraphError := if ok then [] else [error]

/-- The loop over the mock expectations of a node. -/
def expectationErrors (nodeId : String) :
    List String → List MockServerExpectation → List GraphError
  | _, [] => []
  | expectationIds, e :: rest =>
    let error (message : String) : GraphError :=
      { nodeId := some nodeId, message, field := some "service.mockServer.expectations" }
    let about := "MockServer expectation \"" ++ e.id ++ "\""
    reportUnless (trim e.id ≠ "" && !expectationIds.contains e.id)
      (error "MockServer expectations must have unique ids") ++
    reportUnless (["GET", "POST", "PUT", "PATCH", "DELETE", "HEAD", "OPTIONS"].contains e.request.method)
      (error (about ++ " has an invalid HTTP method")) ++
    reportUnless (Text.hasPrefix e.request.path "/") (error (about ++ " path must start with /")) ++
    reportUnless (100 ≤ e.response.statusCode && e.response.statusCode ≤ 599)
      (error (about ++ " status must be between 100 and 599")) ++
    ((e.request.headers.keys ++ e.response.headers.keys).filter (!validHTTPHeaderName ·)).map
      (fun name => error (about ++ " has invalid header name \"" ++ name ++ "\"")) ++
    expectationErrors nodeId (e.id :: expectationIds) rest

/-- The checks of one node. -/
def nodeErrors (node : FlowNode) : List GraphError :=
  let service := node.data.service
  reportUnless (node.data.label ≠ "")
    { nodeId := some node.id, message := "Node must have a label", field := some "label" } ++
  reportUnless (service.type ≠ "generic" || truthy service.image)
    { nodeId := some node.id, message := "Generic service must specify the docker image"
      field := some "service.image" } ++
  reportUnless (service.mockServer.isNone || service.type = "mockserver")
    { nodeId := some node.id
      message := "MockServer expectations can only be used by MockServer services"
      field := some "service.mockServer" } ++
  expectationErrors node.id [] ((service.mockServer.bind (·.expectations)).getD [])

/-- The cycles of the readiness graph; the map gives the names in the order of the nodes. -/
def cyclesOf (nodes : List FlowNode) (edges : List FlowEdge) : List (List String) :=
  let graph := buildServiceDependencies nodes edges
  (Translator.detectCycles graph (serviceNames nodes).eraseDups (cycleSteps graph)).getD []

/-- The errors of `validateWorkflowGraph`; its warnings never make a workflow invalid. -/
def graphErrors (nodes : List FlowNode) (edges : List FlowEdge) : List GraphError :=
  let cycles := cyclesOf nodes edges
  reportUnless (!nodes.isEmpty) { message := "Flow must contain at least one node." } ++
  nodes.flatMap nodeErrors ++
  reportUnless cycles.isEmpty
    { message := "Circular dependencies detected: " ++
        Text.join ", " (cycles.map (Text.join "->")) } ++
  nodes.flatMap (referenceErrors (buildServiceAliasMap nodes) (buildServiceDependencies nodes edges))

/-! ## `validateScenario` -/

open Translator (TranslationError targetErrors)

/-- The loop over the ids of the tests. -/
def duplicateErrors : List String → List ScenarioTestDefinition → List TranslationError
  | _, [] => []
  | testIds, test :: tests =>
    (if testIds.contains test.id then
      [{ message := "Duplicate test id in scenario: " ++ test.id, field := "tests." ++ test.id }]
    else []) ++ duplicateErrors (test.id :: testIds) tests

/-- The loop over the tests; a test without targets ends its turn. -/
def testErrors (nodeNames : List String) (tests : List ScenarioTestDefinition)
    (test : ScenarioTestDefinition) : List TranslationError :=
  (if trim test.name = "" then
    [{ message := "Scenario test must have a name", field := "tests." ++ test.id ++ ".name" }]
  else []) ++
  targetErrors nodeNames test.id test.name test.targetServices ++
  if test.targetServices.isEmpty then []
  else
    ((test.dependsOnTestIds.getD []).filter fun depId =>
        !tests.any fun candidate => candidate.id = depId).map
      fun depId =>
        { message := "Scenario test \"" ++ test.name ++ "\" depends on missing test \"" ++ depId ++
            "\""
          field := "tests." ++ test.id ++ ".dependsOnTestIds" }

/-- The errors of `validateScenario`. -/
def scenarioErrors (nodeNames : List String) (name : String)
    (tests : List ScenarioTestDefinition) : List TranslationError :=
  (if trim name = "" then [{ message := "Scenario must have a name", field := "name" }] else []) ++
  (if tests.isEmpty then [{ message := "Scenario must contain at least one test" }] else []) ++
  duplicateErrors [] tests ++
  tests.flatMap (testErrors nodeNames tests)

/-- A scenario without errors depends on tests that it has. -/
theorem dependsOn_mem {nodeNames : List String} {name : String}
    {tests : List ScenarioTestDefinition} (h : scenarioErrors nodeNames name tests = [])
    {test : ScenarioTestDefinition} (htest : test ∈ tests) {id : String}
    (hid : id ∈ test.dependsOnTestIds.getD []) : id ∈ tests.map (·.id) := by
  simp only [scenarioErrors, List.append_eq_nil_iff, List.flatMap_eq_nil_iff] at h
  obtain ⟨-, htests⟩ := h
  obtain ⟨⟨-, htargets⟩, hdepends⟩ : (_ ∧ _) ∧ _ := by
    simpa only [testErrors, List.append_eq_nil_iff] using htests test htest
  obtain ⟨hsome, -⟩ := Translator.targetErrors_eq_nil.1 htargets
  rw [if_neg (by simpa using hsome), List.map_eq_nil_iff, List.filter_eq_nil_iff] at hdepends
  simpa using hdepends id hid

end Ui

end TokyoTester
