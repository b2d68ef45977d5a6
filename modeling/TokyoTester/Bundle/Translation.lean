import TokyoTester.Bundle.Validation

set_option autoImplicit false

/-! # Translation of scenarios (`pkg/workflowbundle/bundle.go`)

A scenario becomes the services it needs and the test plan that runs against them. The executor
configuration of a test is a `map[string]any`. -/

namespace TokyoTester

open Codec Codec.Fields

/-! ## Test plans (`pkg/config/types.go`) -/

/-- `config.TestRetryPolicy`. -/
structure TestRetryPolicy where
  mode : String := ""
  idempotencyConfirmed : Bool := false
deriving DecidableEq, Repr, Inhabited

theorem TestRetryPolicy.tags_nodup :
    (["mode", "idempotency_confirmed"].map Json.foldName).Nodup := by
  decide +kernel

def TestRetryPolicy.codec : Codec TestRetryPolicy :=
  struct
    (cons "mode" true string (·.mode) <|
      cons "idempotency_confirmed" true Codec.bool (·.idempotencyConfirmed) nil)
    {} (fun (mode, idempotencyConfirmed, _) => { mode, idempotencyConfirmed })
    (fun _ => rfl) TestRetryPolicy.tags_nodup

/-- `config.TestConfig`. -/
structure TestConfig where
  id : String := ""
  name : String := ""
  type : String := ""
  targetServices : List String := []
  dependsOn : List String := []
  retryPolicy : TestRetryPolicy := {}
  config : Document := .empty
deriving Inhabited

def TestConfig.codec : Codec TestConfig :=
  struct
    (cons "id" true string (·.id) <|
      cons "name" false string (·.name) <|
      cons "type" false string (·.type) <|
      cons "target_services" true (slice string) (·.targetServices) <|
      cons "depends_on" true (slice string) (·.dependsOn) <|
      cons "retry_policy" true TestRetryPolicy.codec (·.retryPolicy) <|
      cons "config" false (map any) (·.config) nil)
    {} (fun (id, name, type, targetServices, dependsOn, retryPolicy, config, _) =>
      { id, name, type, targetServices, dependsOn, retryPolicy, config })
    (fun _ => rfl) (by decide +kernel)

/-- `translateRetryPolicy`. -/
def translateRetryPolicy : Option RetryPolicy → TestRetryPolicy
  | none => {}
  | some policy => { mode := policy.mode, idempotencyConfirmed := policy.idempotencyConfirmed }

/-- `translateExpectedHTTPBody`. -/
def translateExpectedHTTPBody : Option ExpectedBody → Option AnyValue
  | none => none
  | some body =>
    match body.mode, body.value with
    | "contains", some v =>
      match v.json with
      | .str _ => some v
      | j => some (.str (Json.marshal j))
    | "contains", none => some (.str (Json.marshal .null))
    | _, some v =>
      match v.json with
      | .str raw =>
        match Json.parse raw >>= Codec.readAny with
        | some parsed => parsed
        | none => some (.object (GoMap.empty : GoMap Json) (fun _ => .null)
            fun _ => by simp [Json.canonical])
      | _ => some v
    | _, none => none

/-! ## Executor configurations -/

/-- A value of a `map[string]any`, with the type that Go keeps with it. -/
inductive ConfigValue where
  | nil
  | string (s : String)
  | int (n : Int64)
  | bool (b : Bool)
  /-- A `map[string]string`. -/
  | strings (m : GoMap String)
  /-- A `map[string]any`. A nil map is a value too. -/
  | document (m : Document)
  /-- A `[]map[string]any`. -/
  | documents (ms : List (Option Document))
  /-- What was read from JSON: a number, a list or an object. -/
  | any (v : AnyValue)

namespace ConfigValue

/-- A field of type `any`. -/
def ofAny : Option AnyValue → ConfigValue
  | none => nil
  | some v =>
    match v.json with
    | .str s => string s
    | .bool b => bool b
    | _ => any v

/-- The value in the JSON of a test plan. -/
def print : ConfigValue → Option AnyValue
  | nil => none
  | string s => some (.str s)
  | int n => some (.int n)
  | bool b => some (.bool b)
  | strings m => some (.ofStrings m)
  | document m => AnyValue.ofDocument m
  | documents ms => AnyValue.ofDocuments ms
  | any v => some v

end ConfigValue

/-- `valueOrDefaultAny` on a field of type `any`. -/
def anyOr (value : Option AnyValue) (fallback : ConfigValue) : ConfigValue :=
  match value with
  | some v => .ofAny (some v)
  | none => fallback

/-- The service of a test that names none. When the default service is not among the required ones
    Go takes any of them. -/
def targetService (defaultService : String) (requiredServices : List String) : String :=
  if requiredServices.contains defaultService then defaultService
  else requiredServices.head?.getD defaultService

/-- `buildTestConfig`. -/
def buildTestConfig (testDef : ScenarioTestDefinition) (defaultService : String)
    (requiredServices : List String) : GoMap ConfigValue :=
  let targetService := targetService defaultService requiredServices
  match testDef.type with
  | "database" =>
    let cfg := testDef.databaseConfig
    GoMap.ofList [("service", .string targetService),
      ("driver", .string ((cfg.map (·.driver)).getD "postgres")),
      ("database", .string ((cfg.map (·.database)).getD "")),
      ("user", .string ((cfg.map (·.user)).getD "")),
      ("password", .string ((cfg.map (·.password)).getD "")),
      ("query", .string ((cfg.map (·.query)).getD "")),
      ("expected_result", anyOr (cfg.bind (·.expectedResult)) .nil)]
  | "document" =>
    let cfg := testDef.documentConfig
    GoMap.ofList [("service", .string ((cfg.map (·.service)).getD targetService)),
      ("database", .string ((cfg.map (·.database)).getD "")),
      ("collection", .string ((cfg.map (·.collection)).getD "")),
      ("operation", .string ((cfg.map (·.operation)).getD "find_one")),
      ("document", (cfg.map fun c => .document c.document).getD .nil),
      ("filter", (cfg.map fun c => .document c.filter).getD .nil),
      ("update", (cfg.map fun c => .document c.update).getD .nil),
      ("expected_document", (cfg.map fun c => .document c.expectedDocument).getD .nil),
      ("expected_documents", (cfg.map fun c => .documents c.expectedDocuments).getD .nil),
      ("expected_count", ((cfg.bind (·.expectedCount)).map .int).getD .nil),
      ("expected_exists", ((cfg.bind (·.expectedExists)).map .bool).getD .nil)]
  | "http" =>
    let cfg := testDef.httpConfig
    GoMap.ofList [("service", .string targetService),
      ("method", .string ((cfg.map (·.method)).getD "GET")),
      ("path", .string ((cfg.map (·.path)).getD "/")),
      ("port", .string ((cfg.map (·.port)).getD "80")),
      ("headers", .strings ((cfg.map (·.headers)).getD .empty)),
      ("body", .string ((cfg.map (·.body)).getD "")),
      ("expected_status", .int ((cfg.map (·.expectedStatus)).getD 200)),
      ("expected_body", .ofAny (translateExpectedHTTPBody (cfg.bind (·.expectedBody))))]
  | "shell" =>
    let cfg := testDef.shellConfig
    GoMap.ofList [("command", .string ((cfg.map (·.command)).getD "")),
      ("env", .strings ((cfg.map (·.env)).getD .empty)),
      ("expected_output", .string ((cfg.map (·.expectedOutput)).getD "")),
      ("expected_exit_code", .int ((cfg.map (·.expectedExitCode)).getD 0))]
  | "cache" =>
    let cfg := testDef.cacheConfig
    GoMap.ofList [("service", .string ((cfg.map (·.service)).getD targetService)),
      ("cache_type", .string ((cfg.map (·.cacheType)).getD "redis")),
      ("operation", .string ((cfg.map (·.operation)).getD "ping")),
      ("key", .string ((cfg.map (·.key)).getD "")),
      ("value", anyOr (cfg.bind (·.value)) (.string "")),
      ("expected_value", anyOr (cfg.bind (·.expectedValue)) (.string "")),
      ("expected_exists", .bool ((cfg.bind (·.expectedExists)).getD false)),
      ("ttl", .int ((cfg.map (·.ttl)).getD 0)),
      ("db", .int ((cfg.map (·.db)).getD 0)),
      ("password", .string ((cfg.map (·.password)).getD ""))]
  | "queue" =>
    let cfg := testDef.queueConfig
    GoMap.ofList ([("service", .string ((cfg.map (·.service)).getD targetService)),
      ("broker_type", .string ((cfg.map (·.brokerType)).getD "kafka")),
      ("operation", .string ((cfg.map (·.operation)).getD "produce")),
      ("topic", .string ((cfg.map (·.topic)).getD "")),
      ("message", anyOr (cfg.bind (·.message)) (.string "")),
      ("key", .string ((cfg.map (·.key)).getD "")),
      ("partition", .int ((cfg.map (·.partition)).getD 0)),
      ("timeout", .int ((cfg.map (·.timeout)).getD 10)),
      ("from_beginning", .bool ((cfg.map (·.fromBeginning)).getD false)),
      ("expected_count", .int ((cfg.map (·.expectedCount)).getD 1)),
      ("expected_exists", .bool ((cfg.bind (·.expectedExists)).getD true))] ++
      match cfg.bind (·.expectedMessage) with
      | some message => [("expected_message", .ofAny (some message))]
      | none => [])
  | _ =>
    GoMap.ofList [("duration_ms", .int ((testDef.delayConfig.map (·.durationMs)).getD 1000))]

/-- `findScenarioTest`. -/
def findScenarioTest (tests : List ScenarioTestDefinition) (id : String) :
    Option ScenarioTestDefinition := tests.find? fun t => t.id = id

/-- The tests of a scenario in the order in which they run. -/
def orderedTests (scenario : BundleScenario) : List ScenarioTestDefinition :=
  let orderedIds := scenario.testOrder.filter (scenarioHasTest scenario.tests)
  orderedIds.filterMap (findScenarioTest scenario.tests) ++
    scenario.tests.filter fun t => !orderedIds.contains t.id

/-- The loop of `translateScenarioTests`; `previous` is the name of the test before. -/
def translateTests (requiredServices : List String) :
    Option String → List ScenarioTestDefinition → List TestConfig
  | _, [] => []
  | previous, testDef :: rest =>
    { id := testDef.id, name := testDef.name, type := testDef.type
      targetServices := testDef.targetServices
      dependsOn := match previous with
        | some name => appendUnique testDef.dependsOnTestIds name
        | none => testDef.dependsOnTestIds
      retryPolicy := translateRetryPolicy testDef.retryPolicy
      config := (buildTestConfig testDef (testDef.targetServices.head?.getD "")
        requiredServices).mapValues ConfigValue.print } ::
    translateTests requiredServices (some testDef.name) rest

/-- `translateScenarioTests`. -/
def translateScenarioTests (scenario : BundleScenario) (requiredServices : List String) :
    List TestConfig := translateTests requiredServices none (orderedTests scenario)

/-- `TranslationResult`. -/
structure TranslationResult where
  services : List ServiceConfig
  tests : List TestConfig

/-- `TranslateScenario`. -/
def Bundle.translateScenario (b : Bundle) (scenario : BundleScenario) :
    Except String TranslationResult := do
  let graph := translateWorkflowGraphToServiceGraph b.workflow.nodes (b.workflow.edges.getD [])
  validateScenario graph scenario 0
  let requiredServices := expandScenarioServiceSubset graph scenario.tests
  .ok {
    services := graph.services.filter fun s => requiredServices.contains s.name
    tests := translateScenarioTests scenario requiredServices }

end TokyoTester
