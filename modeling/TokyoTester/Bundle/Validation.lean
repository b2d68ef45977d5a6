import TokyoTester.Bundle.Services

set_option autoImplicit false

/-! # Validation of bundles (`pkg/workflowbundle/bundle.go`)

`Bundle.Validate`: the edges are migrated in place, then nodes, edges, services and scenarios are
checked. Every check is an `Except String Unit`; the first one that fails decides the error. -/

namespace TokyoTester

/-! ## Checks -/

/-- A check: the message is the error when the condition fails. -/
def ensure (ok : Bool) (message : String) : Except String Unit :=
  if ok then .ok () else .error message

/-! ## Migration of edges -/

def validRelation (value : String) : Bool :=
  ["calls", "reads", "writes", "publishes", "consumes"].contains value

def validReadiness (value : String) : Bool :=
  ["none", "source_requires_target", "target_requires_source"].contains value

/-- One edge of `normalize`. -/
def normalizeEdge (legacyBundle : Bool) (edge : FlowEdge) : Except String FlowEdge := do
  let data := edge.data.getD {}
  ensure (data.relation = "" || validRelation data.relation)
    ("edge " ++ Text.quote edge.id ++ " has invalid relation " ++ Text.quote data.relation)
  ensure (data.readiness = "" || validReadiness data.readiness)
    ("edge " ++ Text.quote edge.id ++ " has invalid readiness " ++ Text.quote data.readiness)
  let legacyEdge := edge.data.isNone || data.relation = "" || data.readiness = ""
  .ok { edge with
    data := some { data with
      relation := if data.relation = "" then "calls" else data.relation
      readiness := if data.readiness = "" then "source_requires_target" else data.readiness
      needsReview := data.needsReview || legacyBundle || legacyEdge } }

def schemaVersion : Int64 := 2

def legacySchemaVersion : Int64 := 1

def bundleKind : String := "cots.workflow-bundle"

/-- `normalize`. The slice of edges is the caller's own: the migrated edges are seen by whoever
    shares it. -/
def Bundle.normalize (b : Bundle) : Except String Bundle := do
  ensure (b.schemaVersion = legacySchemaVersion || b.schemaVersion = TokyoTester.schemaVersion)
    ("unsupported workflow bundle schema version: " ++ Text.decimal b.schemaVersion.toInt)
  let edges ← match b.workflow.edges with
    | some edges => (edges.mapM (normalizeEdge (b.schemaVersion = legacySchemaVersion))).map some
    | none => .ok none
  .ok { b with
    schemaVersion := TokyoTester.schemaVersion, workflow := { b.workflow with edges } }

/-! ## Services -/

def supportedServiceType (value : String) : Bool :=
  ["generic", "postgres", "mysql", "mariadb", "redis", "memcached", "mongodb", "rabbitmq", "kafka",
    "nginx", "mockserver"].contains value

def supportedTestType (value : String) : Bool :=
  ["http", "database", "document", "cache", "queue", "shell", "delay"].contains value

def validHTTPHeaderName (name : String) : Bool :=
  name ≠ "" && name.toList.all fun c =>
    ('a' ≤ c && c ≤ 'z') || ('A' ≤ c && c ≤ 'Z') || ('0' ≤ c && c ≤ '9') ||
      ['!', '#', '$', '%', '&', '\x27', '*', '+', '-', '.', '^', '_', '\x60', '|', '~'].contains c

/-- `validateHeaderMap`; Go visits the map in any order. -/
def validateHeaderMap (headers : GoMap String) : Except String Unit :=
  headers.entries.forM fun h =>
    ensure (nonBlank h.1 && validHTTPHeaderName h.1) ("invalid header name " ++ Text.quote h.1)

def validPort (value : String) : Bool :=
  match Text.atoi (Text.trimSpace (Text.trimSuffix value "/tcp")) with
  | some port => 1 ≤ port && port ≤ 65535
  | none => false

/-- The number that `validPort` reads from the text of a port. -/
def portNumber (value : String) : Option Int :=
  Text.atoi (Text.trimSpace (Text.trimSuffix value "/tcp"))

/-- An error with what it is about in front, as `fmt.Errorf` with `%w` writes it. -/
def withContext (context : String) (r : Except String Unit) : Except String Unit :=
  r.mapError fun e => context ++ ": " ++ e

/-- One mock expectation of `validateServiceRuntime`. -/
def validateExpectation (service : String) (e : MockServerExpectation) : Except String Unit := do
  let about := "service " ++ service ++ " MockServer expectation " ++ Text.quote e.id
  ensure (["GET", "POST", "PUT", "PATCH", "DELETE", "HEAD", "OPTIONS"].contains e.request.method)
    (about ++ " has invalid method " ++ Text.quote e.request.method)
  ensure (Text.hasPrefix e.request.path "/") (about ++ " path must start with /")
  ensure (100 ≤ e.response.statusCode && e.response.statusCode ≤ 599)
    (about ++ " status code must be between 100 and 599")
  withContext (about ++ " request headers") (validateHeaderMap e.request.headers)
  withContext (about ++ " response headers") (validateHeaderMap e.response.headers)

/-- The loop over the ports: each is valid and new. -/
def validatePorts (service : String) : List String → List PortMapping → Except String Unit
  | _, [] => .ok ()
  | seen, port :: ports => do
    ensure (validPort port.containerPort)
      ("service " ++ service ++ " has invalid container port " ++ Text.quote port.containerPort)
    ensure (!seen.contains port.containerPort)
      ("service " ++ service ++ " contains duplicate container port " ++
        Text.quote port.containerPort)
    ensure (port.hostPort = "" || validPort port.hostPort)
      ("service " ++ service ++ " has invalid host port " ++ Text.quote port.hostPort)
    validatePorts service (port.containerPort :: seen) ports

/-- The loop over the environment: each key is present and new. -/
def validateEnv (service : String) : List String → List EnvironmentVariable → Except String Unit
  | _, [] => .ok ()
  | seen, env :: rest => do
    let key := Text.trimSpace env.key
    ensure (key ≠ "") ("service " ++ service ++ " contains an environment variable without a key")
    ensure (!seen.contains key)
      ("service " ++ service ++ " contains duplicate environment key " ++ Text.quote key)
    validateEnv service (key :: seen) rest

/-- The loop over the mock expectations. -/
def validateExpectations (service : String) :
    List String → List MockServerExpectation → Except String Unit
  | _, [] => .ok ()
  | seen, e :: rest => do
    ensure (nonBlank e.id)
      ("service " ++ service ++ " contains a MockServer expectation without an id")
    ensure (!seen.contains e.id)
      ("service " ++ service ++ " contains duplicate MockServer expectation id " ++ Text.quote e.id)
    validateExpectation service e
    validateExpectations service (e.id :: seen) rest

/-- The wait strategy of `validateServiceRuntime`. -/
def validateWaitStrategy (service : String) (strategy : WaitStrategyState) :
    Except String Unit := do
  ensure (["log", "port", "exec"].contains strategy.type)
    ("service " ++ service ++ " has invalid wait strategy " ++ Text.quote strategy.type)
  ensure (nonBlank strategy.target)
    ("service " ++ service ++ " wait strategy " ++ Text.quote strategy.type ++
      " requires a target")
  ensure (0 ≤ strategy.timeout && strategy.timeout ≤ 3600)
    ("service " ++ service ++ " wait strategy timeout must be between 0 and 3600 seconds")

/-- `validateServiceRuntime`. -/
def validateServiceRuntime (node : FlowNode) : Except String Unit := do
  let service := node.data.service
  let name := Text.quote node.data.label
  validatePorts name [] service.ports
  validateEnv name [] service.env
  match service.waitStratergy with
  | some strategy => if strategy.enabled then validateWaitStrategy name strategy
  | none => pure ()
  service.initScripts.forM fun script =>
    ensure (nonBlank script.script) ("service " ++ name ++ " contains an empty init script")
  match service.mockServer with
  | some mockServer =>
    ensure (service.type = "mockserver")
      ("service " ++ name ++ " has MockServer expectations but type is " ++
        Text.quote service.type)
    validateExpectations name [] (mockServer.expectations.getD [])
  | none => pure ()

/-! ## The graph -/

/-- The loop over the nodes: ids, labels and service names are new, the services are sound. -/
def validateNodes : List String → List (String × String) → List FlowNode → Except String Unit
  | _, _, [] => .ok ()
  | nodeIds, serviceNames, node :: nodes => do
    let label := node.data.label
    let service := node.data.service
    ensure (nonBlank node.id) "node must have a non-empty id"
    ensure (!nodeIds.contains node.id)
      ("workflow contains duplicate node id " ++ Text.quote node.id)
    ensure (nonBlank label) "node must have a label"
    let serviceName := sanitizeName label
    ensure (serviceName ≠ "")
      ("node " ++ Text.quote label ++ " produces an empty sanitized service name")
    match serviceNames.find? fun s => s.1 = serviceName with
    | some (_, previous) =>
      .error ("node labels " ++ Text.quote previous ++ " and " ++ Text.quote label ++
        " produce duplicate sanitized service name " ++ Text.quote serviceName)
    | none => pure ()
    ensure (nonBlank service.type) ("node " ++ Text.quote label ++ " must have service definition")
    ensure (supportedServiceType service.type)
      ("node " ++ Text.quote label ++ " has unsupported service type " ++ Text.quote service.type)
    ensure (service.type ≠ "generic" || nonBlank service.image)
      ("generic service " ++ Text.quote label ++ " must specify the docker image")
    validateServiceRuntime node
    validateNodes (node.id :: nodeIds) ((serviceName, label) :: serviceNames) nodes

/-- The loop over the edges. -/
def validateEdges (nodeIds : List String) : List String → List FlowEdge → Except String Unit
  | _, [] => .ok ()
  | edgeIds, edge :: edges => do
    let id := Text.quote edge.id
    ensure (edge.id = "" || !edgeIds.contains edge.id)
      ("workflow contains duplicate edge id " ++ id)
    ensure (nodeIds.contains edge.source)
      ("edge " ++ id ++ " references unknown source node " ++ Text.quote edge.source)
    ensure (nodeIds.contains edge.target)
      ("edge " ++ id ++ " references unknown target node " ++ Text.quote edge.target)
    ensure (edge.source ≠ edge.target)
      ("edge " ++ id ++ " must not connect a node to itself")
    validateEdges nodeIds (if edge.id = "" then edgeIds else edge.id :: edgeIds) edges

/-- `validateWorkflowGraph`. -/
def validateWorkflowGraph (nodes : List FlowNode) (edges : List FlowEdge) :
    Except String Unit := do
  ensure (!nodes.isEmpty) "flow must contain at least one node"
  validateNodes [] [] nodes
  validateEdges (nodes.map (·.id)) [] edges
  let graph := buildServiceDependencies nodes edges
  ensure (detectCycles graph).isEmpty
    ("circular dependencies detected: " ++ Text.join ", " (detectCycles graph))
  validateRuntimeReferenceReadiness nodes graph

/-! ## Scenarios -/

/-- The configurations of a test by their field's name. -/
def testConfigs (test : ScenarioTestDefinition) : List (String × Bool) :=
  [("databaseConfig", test.databaseConfig.isSome), ("documentConfig", test.documentConfig.isSome),
    ("httpConfig", test.httpConfig.isSome), ("shellConfig", test.shellConfig.isSome),
    ("cacheConfig", test.cacheConfig.isSome), ("queueConfig", test.queueConfig.isSome),
    ("delayConfig", test.delayConfig.isSome)]

/-- The closure `requireService` of `validateScenarioTestConfig`. -/
def requireService (test : ScenarioTestDefinition) (services : List String) (name : String) :
    Except String Unit := do
  let about := "scenario test " ++ Text.quote test.name ++ " configuration"
  ensure (nonBlank name) (about ++ " requires a service")
  ensure (services.contains name) (about ++ " references unknown service " ++ Text.quote name)
  ensure (test.targetServices.contains name)
    (about ++ " service " ++ Text.quote name ++ " must be included in targetServices")

/-- The retry policy of `validateScenarioTestConfig`. -/
def validateRetryPolicy (test : ScenarioTestDefinition) (policy : RetryPolicy) :
    Except String Unit := do
  ensure (["transient", "never"].contains policy.mode)
    ("scenario test " ++ Text.quote test.name ++ " has invalid retry mode " ++
      Text.quote policy.mode)
  ensure (!(policy.mode = "never" && policy.idempotencyConfirmed))
    ("scenario test " ++ Text.quote test.name ++
      " cannot confirm idempotency when retries are disabled")
  ensure (!(test.type = "delay" && policy.idempotencyConfirmed))
    ("delay test " ++ Text.quote test.name ++ " cannot enable idempotent retries")

/-- The switch of `validateScenarioTestConfig` over the type of the test. A configuration that the
    type requires is there by then. -/
def validateTestOfType (test : ScenarioTestDefinition) (services : List String) :
    Except String Unit :=
  let about := "scenario test " ++ Text.quote test.name
  match test.type, test.httpConfig, test.databaseConfig, test.documentConfig, test.cacheConfig,
      test.queueConfig, test.shellConfig, test.delayConfig with
  | "http", some cfg, _, _, _, _, _, _ => do
    ensure (["GET", "POST", "PUT", "PATCH", "DELETE", "HEAD", "OPTIONS"].contains
        (Text.toUpper cfg.method))
      (about ++ " has invalid HTTP method " ++ Text.quote cfg.method)
    ensure (Text.hasPrefix cfg.path "/") (about ++ " HTTP path must start with '/'")
    ensure (validPort cfg.port) (about ++ " has invalid HTTP port " ++ Text.quote cfg.port)
    ensure (cfg.expectedStatus = 0 || (100 ≤ cfg.expectedStatus && cfg.expectedStatus ≤ 599))
      (about ++ " has invalid expected HTTP status " ++ Text.decimal cfg.expectedStatus.toInt)
    match cfg.expectedBody with
    | some body =>
      ensure (["contains", "json_partial", "json"].contains body.mode)
        (about ++ " has invalid expected body mode " ++ Text.quote body.mode)
    | none => .ok ()
  | "database", _, some cfg, _, _, _, _, _ => do
    ensure (["postgres", "mysql", "mariadb"].contains cfg.driver)
      (about ++ " has unsupported database driver " ++ Text.quote cfg.driver)
    ensure (nonBlank cfg.database && nonBlank cfg.query)
      (about ++ " databaseConfig requires database and query")
  | "document", _, _, some cfg, _, _, _, _ => do
    requireService test services cfg.service
    ensure (nonBlank cfg.database && nonBlank cfg.collection)
      (about ++ " documentConfig requires database and collection")
    ensure (["insert_one", "find_one", "find_many", "update_one", "delete_one", "count_documents",
        "exists"].contains cfg.operation)
      (about ++ " has unsupported document operation " ++ Text.quote cfg.operation)
  | "cache", _, _, _, some cfg, _, _, _ => do
    requireService test services cfg.service
    ensure (["redis", "memcached"].contains cfg.cacheType)
      (about ++ " has unsupported cache type " ++ Text.quote cfg.cacheType)
    ensure (["ping", "set", "get", "exists", "delete", "del"].contains cfg.operation)
      (about ++ " has unsupported cache operation " ++ Text.quote cfg.operation)
    ensure (cfg.operation = "ping" || nonBlank cfg.key)
      (about ++ " cache operation " ++ Text.quote cfg.operation ++ " requires a key")
  | "queue", _, _, _, _, some cfg, _, _ => do
    requireService test services cfg.service
    ensure (["kafka", "rabbitmq"].contains cfg.brokerType)
      (about ++ " has unsupported broker type " ++ Text.quote cfg.brokerType)
    ensure (["produce", "consume", "produce_and_consume", "check_topic", "list_topics"].contains
        cfg.operation)
      (about ++ " has unsupported queue operation " ++ Text.quote cfg.operation)
    ensure (cfg.operation = "list_topics" || nonBlank cfg.topic)
      (about ++ " queue operation " ++ Text.quote cfg.operation ++ " requires a topic")
    ensure (0 ≤ cfg.timeout && cfg.timeout ≤ 300)
      (about ++ " queue timeout must be between 0 and 300 seconds")
  | "shell", _, _, _, _, _, some cfg, _ =>
    ensure (nonBlank cfg.command) (about ++ " shellConfig requires a command")
  | "delay", _, _, _, _, _, _, some cfg =>
    ensure (1 ≤ cfg.durationMs && cfg.durationMs ≤ 24 * 60 * 60 * 1000)
      (about ++ " delay duration must be between 1 and 86400000 milliseconds")
  | _, _, _, _, _, _, _, _ => .ok ()

/-- `validateScenarioTestConfig`. Go visits the configurations in any order. -/
def validateScenarioTestConfig (test : ScenarioTestDefinition) (services : List String) :
    Except String Unit := do
  match test.retryPolicy with
  | some policy => validateRetryPolicy test policy
  | none => pure ()
  let about := "scenario test " ++ Text.quote test.name ++ " of type " ++ Text.quote test.type
  let required := test.type ++ "Config"
  ensure ((testConfigs test).any fun c => c.1 = required && c.2) (about ++ " requires " ++ required)
  (testConfigs test).forM fun c =>
    ensure (!(c.2 && c.1 ≠ required)) (about ++ " must not include " ++ c.1)
  validateTestOfType test services

def scenarioHasTest (tests : List ScenarioTestDefinition) (id : String) : Bool :=
  tests.any fun t => t.id = id

/-- The loop over the target services of a test. -/
def validateTargets (test : ScenarioTestDefinition) (services : List String) :
    List String → List String → Except String Unit
  | _, [] => .ok ()
  | seen, name :: rest => do
    let about := "scenario test " ++ Text.quote test.name
    ensure (nonBlank name) (about ++ " contains an empty target service")
    ensure (!seen.contains name)
      (about ++ " contains duplicate target service " ++ Text.quote name)
    ensure (services.contains name) (about ++ " references unknown service " ++ Text.quote name)
    validateTargets test services (name :: seen) rest

/-- The loop over the tests of a scenario. -/
def validateTests (scenario : BundleScenario) (services : List String) :
    List String → List String → List ScenarioTestDefinition → Except String Unit
  | _, _, [] => .ok ()
  | testIds, testNames, test :: rest => do
    let about := "scenario " ++ Text.quote scenario.name
    ensure (nonBlank test.id) (about ++ " contains a test without an id")
    ensure (!testIds.contains test.id)
      (about ++ " contains duplicate test id " ++ Text.quote test.id)
    ensure (nonBlank test.name) (about ++ " contains a test without a name")
    ensure (!testNames.contains test.name)
      (about ++ " contains duplicate test name " ++ Text.quote test.name)
    ensure (supportedTestType test.type)
      ("scenario test " ++ Text.quote test.name ++ " has unsupported type " ++
        Text.quote test.type)
    ensure (!test.targetServices.isEmpty)
      ("scenario test " ++ Text.quote test.name ++ " must target at least one service")
    validateTargets test services [] test.targetServices
    test.dependsOnTestIds.forM fun depId => do
      ensure (depId ≠ test.id)
        ("scenario test " ++ Text.quote test.name ++ " must not depend on itself")
      ensure (scenarioHasTest scenario.tests depId)
        ("scenario test " ++ Text.quote test.name ++ " depends on missing test " ++
          Text.quote depId)
    validateScenarioTestConfig test services
    validateTests scenario services (test.id :: testIds) (test.name :: testNames) rest

/-- The loop over the order of the tests. -/
def validateTestOrder (scenario : BundleScenario) :
    List String → List String → Except String Unit
  | _, [] => .ok ()
  | seen, testId :: rest => do
    let about := "scenario " ++ Text.quote scenario.name
    ensure (!seen.contains testId)
      (about ++ " contains duplicate testOrder id " ++ Text.quote testId)
    ensure (scenarioHasTest scenario.tests testId)
      (about ++ " testOrder references unknown test " ++ Text.quote testId)
    validateTestOrder scenario (testId :: seen) rest

/-- `validateScenario`. -/
def validateScenario (graph : WorkflowServiceGraph) (scenario : BundleScenario) (index : Nat) :
    Except String Unit := do
  let about := "scenario " ++ Text.quote scenario.name
  ensure (nonBlank scenario.name)
    ("scenario " ++ Text.decimal (index + 1) ++ " must include a name")
  ensure (!scenario.tests.isEmpty) (about ++ " must contain at least one test")
  validateTests scenario (graph.services.map (·.name)) [] [] scenario.tests
  let cycles := detectCycles (GoMap.ofList (scenario.tests.map fun t => (t.id, t.dependsOnTestIds)))
  ensure cycles.isEmpty
    (about ++ " contains a test dependency cycle: " ++ Text.join ", " cycles)
  ensure (scenario.testOrder.length = scenario.tests.length)
    (about ++ " testOrder must include every test exactly once")
  validateTestOrder scenario [] scenario.testOrder

/-- The loop over the scenarios. -/
def validateScenarios (graph : WorkflowServiceGraph) :
    Nat → List String → List BundleScenario → Except String Unit
  | _, _, [] => .ok ()
  | index, names, scenario :: rest => do
    let name := Text.trimSpace scenario.name
    ensure (!names.contains name)
      ("workflow bundle contains duplicate scenario name " ++ Text.quote name)
    validateScenario graph scenario index
    validateScenarios graph (index + 1) (name :: names) rest

/-- The checks of `Validate` after the migration. -/
def Bundle.check (b : Bundle) : Except String Unit := do
  ensure (b.schemaVersion = TokyoTester.schemaVersion)
    ("unsupported workflow bundle schema version: " ++ Text.decimal b.schemaVersion.toInt)
  ensure (b.kind = bundleKind) ("workflow bundle kind must be " ++ bundleKind)
  ensure (nonBlank b.workflow.name) "workflow bundle must include a workflow name"
  let edges := b.workflow.edges.getD []
  validateWorkflowGraph b.workflow.nodes edges
  let graph := translateWorkflowGraphToServiceGraph b.workflow.nodes edges
  ensure (!b.scenarios.isEmpty) "workflow bundle must include at least one scenario"
  validateScenarios graph 0 [] b.scenarios

/-- `Validate`: the migrated bundle. -/
def Bundle.validate (b : Bundle) : Except String Bundle := do
  let b ← b.normalize
  b.check
  .ok b

end TokyoTester
