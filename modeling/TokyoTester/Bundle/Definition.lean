import TokyoTester.Library.Codec

set_option autoImplicit false

/-! # Workflow bundles (`pkg/workflowbundle/bundle.go`, `pkg/config/types.go`)

The types a workflow is submitted in, with their JSON encodings: one struct, one codec, the tags
as they stand in the declaration. The slices that a validated bundle has nonempty, and those that
are left out when they are empty, are lists; the others keep nil apart from empty. -/

namespace TokyoTester

open Codec Codec.Fields

/-! ## Services -/

/-- `config.RegistryConfig`. -/
structure RegistryConfig where
  url : String := ""
  authType : String := ""
  username : String := ""
  password : String := ""
  token : String := ""
deriving DecidableEq, Repr, Inhabited

def RegistryConfig.codec : Codec RegistryConfig :=
  struct
    (cons "url" false string (·.url) <|
      cons "auth_type" true string (·.authType) <|
      cons "username" true string (·.username) <|
      cons "password" true string (·.password) <|
      cons "token" true string (·.token) nil)
    {} (fun (url, authType, username, password, token, _) =>
      { url, authType, username, password, token })
    (fun _ => rfl) (by decide +kernel)

theorem RegistryConfig.isNull_codec (c : RegistryConfig) :
    (RegistryConfig.codec.encode c).isNull = false := rfl

structure MockServerExpectationRequest where
  method : String := ""
  path : String := ""
  headers : GoMap String := .empty
  body : String := ""
deriving Inhabited

def MockServerExpectationRequest.codec : Codec MockServerExpectationRequest :=
  struct
    (cons "method" false string (·.method) <|
      cons "path" false string (·.path) <|
      cons "headers" true (map string) (·.headers) <|
      cons "body" true string (·.body) nil)
    {} (fun (method, path, headers, body, _) => { method, path, headers, body })
    (fun _ => rfl) (by decide +kernel)

structure MockServerExpectationResponse where
  statusCode : Int64 := 0
  headers : GoMap String := .empty
  body : String := ""
deriving Inhabited

def MockServerExpectationResponse.codec : Codec MockServerExpectationResponse :=
  struct
    (cons "statusCode" false int (·.statusCode) <|
      cons "headers" true (map string) (·.headers) <|
      cons "body" true string (·.body) nil)
    {} (fun (statusCode, headers, body, _) => { statusCode, headers, body })
    (fun _ => rfl) (by decide +kernel)

structure MockServerExpectation where
  id : String := ""
  request : MockServerExpectationRequest := {}
  response : MockServerExpectationResponse := {}
deriving Inhabited

def MockServerExpectation.codec : Codec MockServerExpectation :=
  struct
    (cons "id" false string (·.id) <|
      cons "request" false MockServerExpectationRequest.codec (·.request) <|
      cons "response" false MockServerExpectationResponse.codec (·.response) nil)
    {} (fun (id, request, response, _) => { id, request, response })
    (fun _ => rfl) (by decide +kernel)

structure MockServerServiceConfig where
  expectations : Option (List MockServerExpectation) := none
deriving Inhabited

def MockServerServiceConfig.codec : Codec MockServerServiceConfig :=
  struct
    (cons "expectations" false (nilSlice MockServerExpectation.codec) (·.expectations) nil)
    {} (fun (expectations, _) => { expectations })
    (fun _ => rfl) (by decide +kernel)

structure PortMapping where
  id : String := ""
  hostPort : String := ""
  containerPort : String := ""
deriving DecidableEq, Repr, Inhabited

def PortMapping.codec : Codec PortMapping :=
  struct
    (cons "id" true string (·.id) <|
      cons "hostPort" false string (·.hostPort) <|
      cons "containerPort" false string (·.containerPort) nil)
    {} (fun (id, hostPort, containerPort, _) => { id, hostPort, containerPort })
    (fun _ => rfl) (by decide +kernel)

structure EnvironmentVariable where
  id : String := ""
  key : String := ""
  value : String := ""
deriving DecidableEq, Repr, Inhabited

def EnvironmentVariable.codec : Codec EnvironmentVariable :=
  struct
    (cons "id" true string (·.id) <|
      cons "key" false string (·.key) <|
      cons "value" false string (·.value) nil)
    {} (fun (id, key, value, _) => { id, key, value })
    (fun _ => rfl) (by decide +kernel)

structure WaitStrategyState where
  enabled : Bool := false
  type : String := ""
  target : String := ""
  timeout : Int64 := 0
deriving DecidableEq, Repr, Inhabited

def WaitStrategyState.codec : Codec WaitStrategyState :=
  struct
    (cons "enabled" false bool (·.enabled) <|
      cons "type" false string (·.type) <|
      cons "target" true string (·.target) <|
      cons "timeout" true int (·.timeout) nil)
    {} (fun (enabled, type, target, timeout, _) => { enabled, type, target, timeout })
    (fun _ => rfl) (by decide +kernel)

structure InitScript where
  id : String := ""
  order : Int64 := 0
  script : String := ""
  description : String := ""
deriving DecidableEq, Repr, Inhabited

def InitScript.codec : Codec InitScript :=
  struct
    (cons "id" true string (·.id) <|
      cons "order" false int (·.order) <|
      cons "script" false string (·.script) <|
      cons "description" true string (·.description) nil)
    {} (fun (id, order, script, description, _) => { id, order, script, description })
    (fun _ => rfl) (by decide +kernel)

structure ServiceNodeData where
  type : String := ""
  image : String := ""
  command : List String := []
  ports : List PortMapping := []
  env : List EnvironmentVariable := []
  waitStratergy : Option WaitStrategyState := none
  initScripts : List InitScript := []
  mockServer : Option MockServerServiceConfig := none
  registry : Option RegistryConfig := none
deriving Inhabited

def ServiceNodeData.codec : Codec ServiceNodeData :=
  struct
    (cons "type" false string (·.type) <|
      cons "image" true string (·.image) <|
      cons "command" true (slice string) (·.command) <|
      cons "ports" true (slice PortMapping.codec) (·.ports) <|
      cons "env" true (slice EnvironmentVariable.codec) (·.env) <|
      cons "waitStratergy" true (pointer WaitStrategyState.codec fun _ => rfl) (·.waitStratergy) <|
      cons "initScripts" true (slice InitScript.codec) (·.initScripts) <|
      cons "mockServer" true (pointer MockServerServiceConfig.codec fun _ => rfl) (·.mockServer) <|
      cons "registry" true (pointer RegistryConfig.codec RegistryConfig.isNull_codec)
        (·.registry) nil)
    {} (fun (type, image, command, ports, env, waitStratergy, initScripts, mockServer, registry,
        _) =>
      { type, image, command, ports, env, waitStratergy, initScripts, mockServer, registry })
    (fun _ => rfl) (by decide +kernel)

structure FlowNodeData where
  label : String := ""
  service : ServiceNodeData := {}
deriving Inhabited

def FlowNodeData.codec : Codec FlowNodeData :=
  struct
    (cons "label" false string (·.label) <|
      cons "service" false ServiceNodeData.codec (·.service) nil)
    {} (fun (label, service, _) => { label, service })
    (fun _ => rfl) (by decide +kernel)

structure FlowNode where
  id : String := ""
  data : FlowNodeData := {}
deriving Inhabited

def FlowNode.codec : Codec FlowNode :=
  struct
    (cons "id" false string (·.id) <|
      cons "data" false FlowNodeData.codec (·.data) nil)
    {} (fun (id, data, _) => { id, data })
    (fun _ => rfl) (by decide +kernel)

/-! ## Edges -/

structure FlowEdgeData where
  relation : String := ""
  readiness : String := ""
  label : String := ""
  description : String := ""
  protocol : String := ""
  needsReview : Bool := false
deriving DecidableEq, Repr, Inhabited

def FlowEdgeData.codec : Codec FlowEdgeData :=
  struct
    (cons "relation" false string (·.relation) <|
      cons "readiness" false string (·.readiness) <|
      cons "label" true string (·.label) <|
      cons "description" true string (·.description) <|
      cons "protocol" true string (·.protocol) <|
      cons "needsReview" true bool (·.needsReview) nil)
    {} (fun (relation, readiness, label, description, protocol, needsReview, _) =>
      { relation, readiness, label, description, protocol, needsReview })
    (fun _ => rfl) (by decide +kernel)

structure FlowEdge where
  id : String := ""
  source : String := ""
  target : String := ""
  data : Option FlowEdgeData := none
deriving DecidableEq, Repr, Inhabited

def FlowEdge.codec : Codec FlowEdge :=
  struct
    (cons "id" true string (·.id) <|
      cons "source" false string (·.source) <|
      cons "target" false string (·.target) <|
      cons "data" true (pointer FlowEdgeData.codec fun _ => rfl) (·.data) nil)
    {} (fun (id, source, target, data, _) => { id, source, target, data })
    (fun _ => rfl) (by decide +kernel)

/-! ## Tests -/

structure RetryPolicy where
  mode : String := ""
  idempotencyConfirmed : Bool := false
deriving DecidableEq, Repr, Inhabited

def RetryPolicy.codec : Codec RetryPolicy :=
  struct
    (cons "mode" false string (·.mode) <|
      cons "idempotencyConfirmed" true bool (·.idempotencyConfirmed) nil)
    {} (fun (mode, idempotencyConfirmed, _) => { mode, idempotencyConfirmed })
    (fun _ => rfl) (by decide +kernel)

structure DatabaseConfig where
  driver : String := ""
  database : String := ""
  user : String := ""
  password : String := ""
  query : String := ""
  expectedResult : Option AnyValue := none
deriving Inhabited

def DatabaseConfig.codec : Codec DatabaseConfig :=
  struct
    (cons "driver" false string (·.driver) <|
      cons "database" false string (·.database) <|
      cons "user" false string (·.user) <|
      cons "password" false string (·.password) <|
      cons "query" false string (·.query) <|
      cons "expectedResult" true any (·.expectedResult) nil)
    {} (fun (driver, database, user, password, query, expectedResult, _) =>
      { driver, database, user, password, query, expectedResult })
    (fun _ => rfl) (by decide +kernel)

/-- A document: a `map[string]any`. -/
abbrev Document := GoMap (Option AnyValue)

theorem Document.isNull_codec (d : Document) : ((map any).encode d).isNull = false := rfl

structure DocumentConfig where
  service : String := ""
  database : String := ""
  collection : String := ""
  operation : String := ""
  document : Document := .empty
  filter : Document := .empty
  update : Document := .empty
  expectedDocument : Document := .empty
  expectedDocuments : List (Option Document) := []
  expectedCount : Option Int64 := none
  expectedExists : Option Bool := none
deriving Inhabited

theorem DocumentConfig.tags_nodup :
    (["service", "database", "collection", "operation", "document", "filter", "update",
      "expectedDocument", "expectedDocuments", "expectedCount", "expectedExists"].map
      Json.foldName).Nodup := by
  decide +kernel

def DocumentConfig.codec : Codec DocumentConfig :=
  struct
    (cons "service" false string (·.service) <|
      cons "database" false string (·.database) <|
      cons "collection" false string (·.collection) <|
      cons "operation" false string (·.operation) <|
      cons "document" true (map any) (·.document) <|
      cons "filter" true (map any) (·.filter) <|
      cons "update" true (map any) (·.update) <|
      cons "expectedDocument" true (map any) (·.expectedDocument) <|
      cons "expectedDocuments" true (slice (pointer (map any) Document.isNull_codec))
        (·.expectedDocuments) <|
      cons "expectedCount" true (pointer int isNull_int) (·.expectedCount) <|
      cons "expectedExists" true (pointer bool isNull_bool) (·.expectedExists) nil)
    {} (fun (service, database, collection, operation, document, filter, update,
        expectedDocument, expectedDocuments, expectedCount, expectedExists, _) =>
      { service, database, collection, operation, document, filter, update, expectedDocument
        expectedDocuments, expectedCount, expectedExists })
    (fun _ => rfl) DocumentConfig.tags_nodup

structure ExpectedBody where
  mode : String := ""
  value : Option AnyValue := none
deriving Inhabited

def ExpectedBody.codec : Codec ExpectedBody :=
  struct
    (cons "mode" false string (·.mode) <|
      cons "value" false any (·.value) nil)
    {} (fun (mode, value, _) => { mode, value })
    (fun _ => rfl) (by decide +kernel)

structure HTTPConfig where
  method : String := ""
  path : String := ""
  port : String := ""
  headers : GoMap String := .empty
  body : String := ""
  expectedStatus : Int64 := 0
  expectedBody : Option ExpectedBody := none
deriving Inhabited

def HTTPConfig.codec : Codec HTTPConfig :=
  struct
    (cons "method" false string (·.method) <|
      cons "path" false string (·.path) <|
      cons "port" false string (·.port) <|
      cons "headers" true (map string) (·.headers) <|
      cons "body" true string (·.body) <|
      cons "expectedStatus" true int (·.expectedStatus) <|
      cons "expectedBody" true (pointer ExpectedBody.codec fun _ => rfl) (·.expectedBody) nil)
    {} (fun (method, path, port, headers, body, expectedStatus, expectedBody, _) =>
      { method, path, port, headers, body, expectedStatus, expectedBody })
    (fun _ => rfl) (by decide +kernel)

structure ShellConfig where
  command : String := ""
  env : GoMap String := .empty
  expectedOutput : String := ""
  expectedExitCode : Int64 := 0
deriving Inhabited

def ShellConfig.codec : Codec ShellConfig :=
  struct
    (cons "command" false string (·.command) <|
      cons "env" true (map string) (·.env) <|
      cons "expectedOutput" true string (·.expectedOutput) <|
      cons "expectedExitCode" true int (·.expectedExitCode) nil)
    {} (fun (command, env, expectedOutput, expectedExitCode, _) =>
      { command, env, expectedOutput, expectedExitCode })
    (fun _ => rfl) (by decide +kernel)

structure CacheConfig where
  service : String := ""
  cacheType : String := ""
  operation : String := ""
  key : String := ""
  value : Option AnyValue := none
  expectedValue : Option AnyValue := none
  expectedExists : Option Bool := none
  ttl : Int64 := 0
  db : Int64 := 0
  password : String := ""
deriving Inhabited

theorem CacheConfig.tags_nodup :
    (["service", "cacheType", "operation", "key", "value", "expectedValue", "expectedExists",
      "ttl", "db", "password"].map Json.foldName).Nodup := by
  decide +kernel

def CacheConfig.codec : Codec CacheConfig :=
  struct
    (cons "service" false string (·.service) <|
      cons "cacheType" false string (·.cacheType) <|
      cons "operation" false string (·.operation) <|
      cons "key" true string (·.key) <|
      cons "value" true any (·.value) <|
      cons "expectedValue" true any (·.expectedValue) <|
      cons "expectedExists" true (pointer bool isNull_bool) (·.expectedExists) <|
      cons "ttl" true int (·.ttl) <|
      cons "db" true int (·.db) <|
      cons "password" true string (·.password) nil)
    {} (fun (service, cacheType, operation, key, value, expectedValue, expectedExists, ttl, db,
        password, _) =>
      { service, cacheType, operation, key, value, expectedValue, expectedExists, ttl, db
        password })
    (fun _ => rfl) CacheConfig.tags_nodup

structure QueueConfig where
  service : String := ""
  brokerType : String := ""
  operation : String := ""
  topic : String := ""
  message : Option AnyValue := none
  key : String := ""
  partition : Int64 := 0
  timeout : Int64 := 0
  fromBeginning : Bool := false
  expectedCount : Int64 := 0
  expectedMessage : Option AnyValue := none
  expectedExists : Option Bool := none
deriving Inhabited

theorem QueueConfig.tags_nodup :
    (["service", "brokerType", "operation", "topic", "message", "key", "partition", "timeout",
      "fromBeginning", "expectedCount", "expectedMessage", "expectedExists"].map
      Json.foldName).Nodup := by
  decide +kernel

def QueueConfig.codec : Codec QueueConfig :=
  struct
    (cons "service" false string (·.service) <|
      cons "brokerType" false string (·.brokerType) <|
      cons "operation" false string (·.operation) <|
      cons "topic" true string (·.topic) <|
      cons "message" true any (·.message) <|
      cons "key" true string (·.key) <|
      cons "partition" true int (·.partition) <|
      cons "timeout" true int (·.timeout) <|
      cons "fromBeginning" true bool (·.fromBeginning) <|
      cons "expectedCount" true int (·.expectedCount) <|
      cons "expectedMessage" true any (·.expectedMessage) <|
      cons "expectedExists" true (pointer bool isNull_bool) (·.expectedExists) nil)
    {} (fun (service, brokerType, operation, topic, message, key, partition, timeout,
        fromBeginning, expectedCount, expectedMessage, expectedExists, _) =>
      { service, brokerType, operation, topic, message, key, partition, timeout, fromBeginning
        expectedCount, expectedMessage, expectedExists })
    (fun _ => rfl) QueueConfig.tags_nodup

structure DelayConfig where
  durationMs : Int64 := 0
deriving DecidableEq, Repr, Inhabited

def DelayConfig.codec : Codec DelayConfig :=
  struct
    (cons "durationMs" false int (·.durationMs) nil)
    {} (fun (durationMs, _) => { durationMs })
    (fun _ => rfl) (by decide +kernel)

structure ScenarioTestDefinition where
  id : String := ""
  name : String := ""
  type : String := ""
  targetServices : List String := []
  dependsOnTestIds : List String := []
  retryPolicy : Option RetryPolicy := none
  databaseConfig : Option DatabaseConfig := none
  documentConfig : Option DocumentConfig := none
  httpConfig : Option HTTPConfig := none
  shellConfig : Option ShellConfig := none
  cacheConfig : Option CacheConfig := none
  queueConfig : Option QueueConfig := none
  delayConfig : Option DelayConfig := none
deriving Inhabited

def ScenarioTestDefinition.codec : Codec ScenarioTestDefinition :=
  struct
    (cons "id" false string (·.id) <|
      cons "name" false string (·.name) <|
      cons "type" false string (·.type) <|
      cons "targetServices" false (slice string) (·.targetServices) <|
      cons "dependsOnTestIds" true (slice string) (·.dependsOnTestIds) <|
      cons "retryPolicy" true (pointer RetryPolicy.codec fun _ => rfl) (·.retryPolicy) <|
      cons "databaseConfig" true (pointer DatabaseConfig.codec fun _ => rfl) (·.databaseConfig) <|
      cons "documentConfig" true (pointer DocumentConfig.codec fun _ => rfl) (·.documentConfig) <|
      cons "httpConfig" true (pointer HTTPConfig.codec fun _ => rfl) (·.httpConfig) <|
      cons "shellConfig" true (pointer ShellConfig.codec fun _ => rfl) (·.shellConfig) <|
      cons "cacheConfig" true (pointer CacheConfig.codec fun _ => rfl) (·.cacheConfig) <|
      cons "queueConfig" true (pointer QueueConfig.codec fun _ => rfl) (·.queueConfig) <|
      cons "delayConfig" true (pointer DelayConfig.codec fun _ => rfl) (·.delayConfig) nil)
    {} (fun (id, name, type, targetServices, dependsOnTestIds, retryPolicy, databaseConfig,
        documentConfig, httpConfig, shellConfig, cacheConfig, queueConfig, delayConfig, _) =>
      { id, name, type, targetServices, dependsOnTestIds, retryPolicy, databaseConfig
        documentConfig, httpConfig, shellConfig, cacheConfig, queueConfig, delayConfig })
    (fun _ => rfl) (by decide +kernel)

/-! ## The bundle

A bundle is never encoded here: the runner builds it from a request. -/

structure BundleScenario where
  name : String := ""
  description : String := ""
  tests : List ScenarioTestDefinition := []
  testOrder : List String := []
deriving Inhabited

/-- The bundle's `Workflow`. -/
structure BundleWorkflow where
  name : String := ""
  nodes : List FlowNode := []
  edges : Option (List FlowEdge) := none
deriving Inhabited

structure Bundle where
  schemaVersion : Int64
  kind : String
  workflow : BundleWorkflow
  scenarios : List BundleScenario
deriving Inhabited

end TokyoTester
