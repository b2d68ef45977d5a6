import TokyoTester.Tests.Config

set_option autoImplicit false

/-! # Test executors (`pkg/test/*.go`)

One executor for each type of test, over the registry of running services and the answers of the
clients and drivers. An error is kept with where it comes from: the executor's own complaint about
its configuration, an assertion, or a client. -/

namespace TokyoTester

/-- What a test fails with. -/
inductive Failure where
  /-- `ConfigurationFailure`. -/
  | configuration (message : String)
  /-- A complaint about the configuration that is not marked as one: `OperationFailure` makes an
      execution error of it, `ResultValidationFailure` an assertion. -/
  | unmarked (message : String)
  /-- `AssertionFailure`. -/
  | assertion (message : String)
  /-- What a client or a driver reports: `SetupFailure`, `OperationFailure` or the context's own
      error. -/
  | transport (message : String)
deriving DecidableEq, Repr

/-- The executor complains about its configuration. -/
def Failure.aboutConfiguration : Failure → Bool
  | configuration _ => true
  | unmarked _ => true
  | _ => false

def Failure.message : Failure → String
  | configuration message | unmarked message | assertion message | transport message => message

/-- The result of an executor. -/
abbrev Outcome := Except Failure Unit

section Marks

variable {α : Type}

def configured (r : Except String α) : Except Failure α := r.mapError .configuration

def unmarked (r : Except String α) : Except Failure α := r.mapError .unmarked

/-- A client's answer, its error with a context in front. -/
def answered (context : String) (r : Except String α) : Except Failure α :=
  r.mapError fun e => .transport (context ++ e)

def require (message : String) (value : Option α) : Except String α :=
  match value with
  | some a => .ok a
  | none => .error message

/-- An assertion. -/
def expect (ok : Bool) (message : String) : Outcome :=
  if ok then .ok () else .error (.assertion message)

end Marks

/-! ## Running services (`pkg/types/runtime.go`, `pkg/orchestrator/interpolator.go`) -/

structure ServiceRuntime where
  name : String
  host : String
  mappedPorts : GoMap String
  envVars : GoMap String

/-- `RuntimeRegsitry`. -/
abbrev RuntimeRegistry := GoMap ServiceRuntime

section Addresses

variable (lib : Libraries)

def addressableHost (host : String) : String :=
  let host := Text.trimSpace host
  let host := if Text.hasPrefix host "[" && host.toList.getLast? = some ']' then
    String.ofList ((host.toList.drop 1).dropLast) else host
  if Json.foldName host = Json.foldName "localhost" || lib.isLoopback host then "127.0.0.1"
  else host

def joinHostPort (host port : String) : String :=
  let host := addressableHost lib host
  -- `net.JoinHostPort` brackets what looks like an IPv6 address
  if host.toList.any fun c => c = ':' || c = '%' then "[" ++ host ++ "]:" ++ port
  else host ++ ":" ++ port

def normalizeHostPort (address : String) : Except String String := do
  let (host, port) ← lib.splitHostPort address
  .ok (joinHostPort lib host port)

def normalizeURLHost (rawURL : String) : Except String String := do
  let parsed ← lib.parseURL rawURL
  if parsed.host = "" then .error "URL has no host"
  else if parsed.port = "" then .ok (parsed.text (addressableHost lib parsed.hostname))
  else .ok (parsed.text (joinHostPort lib parsed.hostname parsed.port))

def ServiceRuntime.endpoint (r : ServiceRuntime) (containerPort : String) :
    Except String String :=
  match r.mappedPorts.get? containerPort with
  | some port =>
    if port = "" then
      .error ("port " ++ containerPort ++ " is not mapped for service " ++ r.name)
    else .ok (joinHostPort lib r.host port)
  | none => .error ("port " ++ containerPort ++ " is not mapped for service " ++ r.name)

end Addresses

/-- `resolveReference` on the parts of a reference: the first two, and the rest if there is one. -/
def resolveReference (registry : RuntimeRegistry) (ref : String) : Except String String := do
  match Text.splitAt '.' ref.toList with
  | service :: field :: rest =>
    let serviceName := String.ofList service
    let third : Option String :=
      if rest.isEmpty then none else some (Text.join "." (rest.map String.ofList))
    let runtime ← require ("service not found: " ++ serviceName) (registry.get? serviceName)
    match String.ofList field with
    | "host" =>
      if runtime.host = "" then .error ("host not available for service: " ++ serviceName)
      else .ok runtime.name
    | "port" =>
      let containerPort ← require ("port reference requires container port : " ++ serviceName ++
        ".port.CONTAINER_PORT") third
      require ("port " ++ containerPort ++ " not mapped for service : " ++ serviceName)
        (runtime.mappedPorts.get? containerPort)
    | "env" =>
      let varName ← require ("env reference requires variable name : " ++ serviceName ++
        ".env.VAR_NAME") third
      require ("environment variable " ++ varName ++ " not found for service : " ++ serviceName)
        (runtime.envVars.get? varName)
    | field => .error ("unknown field: " ++ field ++ " (supported: host,port,env)")
  | _ => .error ("invalid reference form,at : " ++ ref ++ " (expected SERVICE.field)")

/-- `strings.ReplaceAll` of a nonempty text. -/
def replaceAllChars (old new : List Char) : Nat → List Char → List Char
  | 0, cs => cs
  | _, [] => []
  | fuel + 1, c :: cs =>
    if old.isPrefixOf (c :: cs) then new ++ replaceAllChars old new fuel ((c :: cs).drop old.length)
    else c :: replaceAllChars old new fuel cs

def replaceAll (s old new : String) : String :=
  String.ofList (replaceAllChars old.toList new.toList s.length s.toList)

/-- The references of one value in `InterpolateEnvVars`, one after the other. -/
def interpolateAll (registry : RuntimeRegistry) (key : String) :
    List String → String → Except String String
  | [], resolved => .ok resolved
  | varRef :: rest, resolved => do
    let replacement ← (resolveReference registry varRef).mapError fun e =>
      "failed to resolve $\x7b" ++ varRef ++ "\x7d in " ++ key ++ ": " ++ e
    interpolateAll registry key rest
      (replaceAll resolved ("$\x7b" ++ varRef ++ "\x7d") replacement)

/-- The references of a text. -/
def referencesOf (value : String) : List String :=
  (Text.references value.length value.toList).map String.ofList

/-- `InterpolateEnvVars` on one variable. -/
def interpolateEnvVar (registry : RuntimeRegistry) (key value : String) : Except String String :=
  interpolateAll registry key (referencesOf value) value

/-! ## Clients -/

/-- What a message consumer gets before its deadline. -/
abbrev Messages := List (Except String String)

/-- The answers of the clients and drivers to one test. What is compared with an expectation is
    given by what it matches. -/
structure World where
  /-- `http.Client.Do`: the status of the response. -/
  httpDo : Except String Int64
  /-- `io.ReadAll` of the response's body. -/
  httpBody : Except String String
  /-- `sql.Open`, `PingContext` and `QueryContext`. -/
  sqlOpen : Except String Unit
  sqlPing : Except String Unit
  sqlQuery : Except String Unit
  /-- The rows of the query. -/
  sqlRows : SqlRows
  /-- The order in which Go ranges over the rules of the columns. -/
  sqlOrder : (columns : List (String × Json)) → {order : List (String × Json) // order.Perm columns}
  /-- The rows' error is one of transport. -/
  sqlTransient : String → Bool
  /-- `mongo.Connect` and `Ping`. -/
  mongoConnect : Except String Unit
  mongoPing : Except String Unit
  insertOne : Except String Unit
  /-- The document that is found, by the documents that it matches (`matchesPartialDocument`). -/
  findOne : Except String (Document → Bool)
  findMany : Except String (List (Document → Bool))
  /-- The documents that are matched, deleted or counted. -/
  updateOne : Except String Int64
  deleteOne : Except String Int64
  countDocuments : Except String Int64
  redisPing : Except String Unit
  redisSet : Except String Unit
  /-- `none` is `redis.Nil`. -/
  redisGet : Except String (Option String)
  redisExists : Except String Int64
  redisDel : Except String Unit
  memcachedPing : Except String Unit
  memcachedSet : Except String Unit
  /-- `none` is `memcache.ErrCacheMiss`. -/
  memcachedGet : Except String (Option String)
  memcachedDelete : Except String Unit
  kafkaWrite : Except String Unit
  kafkaRead : Messages
  kafkaDial : Except String Unit
  kafkaTopics : Except String (List String)
  amqpDial : Except String Unit
  amqpChannel : Except String Unit
  amqpDeclare : Except String Unit
  amqpPublish : Except String Unit
  amqpGet : Messages
  amqpAck : Except String Unit
  /-- The names of the queues in the answer of the management api. -/
  managementQueues : Except String (List String)
  /-- `CombinedOutput`; another exit code than 0 is an error. -/
  shellRun : Except String String
  /-- The context is done before the delay is over. -/
  delayInterrupted : Option String

/-- Every call succeeds, and what is found is nothing. -/
def World.answering : World :=
  { httpDo := .ok 200, httpBody := .ok "", sqlOpen := .ok (), sqlPing := .ok ()
    sqlQuery := .ok (), sqlRows := ⟨[], none, [], none⟩, sqlOrder := fun columns => ⟨columns, .rfl⟩
    sqlTransient := fun _ => false
    mongoConnect := .ok (), mongoPing := .ok (), insertOne := .ok ()
    findOne := .ok fun _ => false, findMany := .ok [], updateOne := .ok 0, deleteOne := .ok 0
    countDocuments := .ok 0, redisPing := .ok (), redisSet := .ok (), redisGet := .ok none
    redisExists := .ok 0, redisDel := .ok (), memcachedPing := .ok (), memcachedSet := .ok ()
    memcachedGet := .ok none, memcachedDelete := .ok (), kafkaWrite := .ok (), kafkaRead := []
    kafkaDial := .ok (), kafkaTopics := .ok [], amqpDial := .ok (), amqpChannel := .ok ()
    amqpDeclare := .ok (), amqpPublish := .ok (), amqpGet := [], amqpAck := .ok ()
    managementQueues := .ok [], shellRun := .ok "", delayInterrupted := none }

/-! ## Documents -/

def toDocumentMap : ConfigValue → Option Document
  | .document m => some m
  | .any v =>
    match v.json with
    | .obj _ => (Codec.map Codec.any).decode v.json
    | _ => none
  | _ => none

def toDocumentList : ConfigValue → Option (List Document)
  | .documents ms => some (ms.map fun m => m.getD .empty)
  | .any v =>
    match v.json with
    | .arr items => items.mapM fun item =>
        match item with
        | .obj _ => (Codec.map Codec.any).decode item
        | _ => none
    | _ => none
  | _ => none

section Execute

variable (lib : Libraries) (registry : RuntimeRegistry) (world : World) (cfg : Config)

/-- The value of a key of type `string`. -/
def requireText (key message : String) : Except String String := require message (cfg.value key).text?

def serviceRuntime (notFound serviceName : String) : Except Failure ServiceRuntime :=
  configured (require (notFound ++ serviceName) (registry.get? serviceName))

/-! ## Delays and commands -/

def executeDelay : Outcome := do
  let found ← configured (lookupConfigValue lib cfg "duration_ms")
  if found.isNone then
    .error (.configuration "delay test requires 'duration_ms' in the configuration")
  else
    let durationMs ← configured (getIntOrDefault lib cfg "duration_ms" 0)
    if durationMs ≤ 0 then .error (.configuration "duration_ms must be greater than 0")
    else
      match world.delayInterrupted with
      | some e => .error (.transport e)
      | none => .ok ()

/-- `buildEnvironment`, less the environment of the process. -/
def buildEnvironment : Except String (List String) := do
  let envVars ← getStringMap lib cfg "env"
  envVars.entries.mapM fun e => do
    let interpolated ← (interpolateEnvVar registry e.1 e.2).mapError fun err =>
      "failed to interpolate shell environment variable " ++ e.1 ++ ": " ++ err
    .ok (e.1 ++ "=" ++ interpolated)

def executeShell : Outcome := do
  let _command ← configured (requireText cfg "command" "shell test requires 'command' in configuration")
  let _env ← configured (buildEnvironment lib registry cfg)
  let output ← answered "command failed " world.shellRun
  match ← configured (lookupConfigValue lib cfg "expected_output") with
  | some value =>
    let expectedOutput ← configured (require "expected_output must be a string" value.text?)
    expect (Text.contains output expectedOutput)
      ("output does not match expected string: " ++ expectedOutput ++ "\n ActualOutput: " ++ output)
  | none => pure ()
  match ← configured (getInt64Config lib cfg "expected_exit_code") with
  | some expectedCode =>
    expect (expectedCode = 0) ("expected exit code " ++ Text.decimal expectedCode.toInt ++ ", got 0")
  | none => .ok ()

/-! ## Requests -/

/-- One field of an expected body; numbers are compared as `float64` (`normalizeNumber`). -/
def checkField (actual : Document) (e : String × Option AnyValue) : Outcome :=
  let shown (value : Option AnyValue) : String :=
    lib.sprint (.ofAny value) ++ " (" ++ (ConfigValue.ofAny value).goType ++ ")"
  match actual.get? e.1 with
  | some actualVal =>
    expect (lib.deepEqual (Codec.any.encode actualVal) (Codec.any.encode e.2))
      ("expected body field " ++ e.1 ++ "=" ++ shown e.2 ++ ", got " ++ shown actualVal)
  | none => .error (.assertion ("expected body field " ++ e.1 ++ " missing in response"))

def checkObject (body : String) (expected : Document) : Outcome :=
  match Json.parse body >>= (Codec.map Codec.any).decode with
  | some actual => expected.entries.forM (checkField lib actual)
  | none => .error (.assertion "response is not valid JSON")

/-- The expected body of a response that was read. -/
def checkBody (body : String) : ConfigValue → Outcome
  | .string expected =>
    expect (Text.contains body expected)
      ("response body does not contain expected string: " ++ expected)
  | expectedBody =>
    match toDocumentMap expectedBody with
    | some expected => checkObject lib body expected
    | none => .error (.configuration "unsupported expected_body type")

def executeHTTP : Outcome := do
  let method ← configured (getStringOrDefault lib cfg "method" "GET")
  let path ← configured (getStringOrDefault lib cfg "path" "/")
  let serviceName ← configured (requireText cfg "service" "http test requires 'service' configuration")
  let runtime ← serviceRuntime registry "service not found: " serviceName
  let port ← configured (getStringOrDefault lib cfg "port" "80")
  let endpoint ← configured (runtime.endpoint lib port)
  configured ((lib.newRequest method ("http://" ++ endpoint ++ path)).mapError fun e =>
    "failed to create request : " ++ e)
  let _headers ← configured (getStringMap lib cfg "headers")
  let status ← answered "request failed: " world.httpDo
  match ← configured (getInt64Config lib cfg "expected_status") with
  | some expectedStatus =>
    expect (status = expectedStatus)
      ("expected status " ++ Text.decimal expectedStatus.toInt ++ ", got " ++
        Text.decimal status.toInt)
  | none => pure ()
  let body ← answered "failed to read response body: " world.httpBody
  match ← configured (lookupConfigValue lib cfg "expected_body") with
  | some expectedBody => checkBody lib body expectedBody
  | none => .ok ()

/-! ## Databases -/

def connectionString (runtime : ServiceRuntime) (driver : String) : Except String String := do
  match driver with
  | "postgres" =>
    let database ← getStringOrDefault lib cfg "database" "testdb"
    let user ← getStringOrDefault lib cfg "user" "postgres"
    let password ← getStringOrDefault lib cfg "password" "postgres"
    match runtime.mappedPorts.get? "5432" with
    | some port =>
      if port = "" then .error "postgres port 5432 not exposed"
      else .ok ("host=" ++ addressableHost lib runtime.host ++ " port=" ++ port ++ " user=" ++ user ++
        " password=" ++ password ++ " dbname=" ++ database ++ " sslmode=disable")
    | none => .error "postgres port 5432 not exposed"
  | driver =>
    if driver = "mysql" || driver = "mariadb" then do
      let database ← getStringOrDefault lib cfg "database" "testdb"
      let user ← getStringOrDefault lib cfg "user" "root"
      let password ← getStringOrDefault lib cfg "password" "root"
      let endpoint ← runtime.endpoint lib "3306"
      .ok (user ++ ":" ++ password ++ "@tcp(" ++ endpoint ++ ")/" ++ database ++
        "?parseTime=true&multiStatements=true")
    else .error ("unsuopported driver: " ++ driver)

/-- What an expected result is for `validateResult`; nothing of another type is read. -/
def resultJson : ConfigValue → Option Json
  | .string s => some (.str s)
  | .int n => some (.num (Text.decimal n.toInt))
  | .bool b => some (.bool b)
  | .document m => some (.obj (m.entries.map fun e => (e.1, Codec.any.encode e.2)))
  | .any v => some v.json
  | _ => none

/-- What the rows fail: `ResultValidationFailure`. -/
def validated {α : Type} (r : Except String α) : Except Failure α :=
  r.mapError fun e => if world.sqlTransient e then .transport e else .assertion e

/-- The rules of one column of `validateStructured`. -/
def checkColumn (column : String × Json) : Outcome :=
  let context := "column " ++ column.1 ++ " validation failed: "
  match column.2 with
  | .obj _ =>
    validated world
      ((validateColumn lib.formats world.sqlRows.rows column.1 column.2).mapError fun e =>
        context ++ e)
  | _ => .error (.unmarked (context ++ "invalid column rules format"))

/-- `validateStructured`, with its complaint about the rules apart from those about the rows. -/
def checkStructured (rules : List (String × Json)) : Outcome := do
  validated world (world.sqlRows.getColumns "failed to get columns: ")
  let _ ← validated world (world.sqlRows.rows.mapM fun row => row.scan "failed to scan row : ")
  validated world (checkMinRows lib.formats rules world.sqlRows.rows.length)
  validated world (checkMaxRows lib.formats rules world.sqlRows.rows.length)
  match rules.lookup "columns" with
  | some (.obj columns) => (world.sqlOrder columns).1.forM (checkColumn lib world)
  | _ => .ok ()

/-- `validateResult`, with its complaints about the expectation apart from those about the rows. -/
def checkResult (expectedResult : ConfigValue) : Outcome := do
  let expected ← unmarked (require ("unsupported expected_result type: " ++ expectedResult.goType)
    (resultJson expectedResult))
  match ← unmarked (normalizeExpected expected) with
  | .obj rules => checkStructured lib world rules
  | .null => .error (.unmarked "unsupported expected_result type: <nil>")
  | normalized => validated world (validateResult lib.formats world.sqlRows normalized)

def executeDatabase : Outcome := do
  let _query ← configured (requireText cfg "query" "database test requires 'query' in the configuration")
  let serviceName ← configured
    (requireText cfg "service" "database test requires 'service' in the configuration")
  let driver ← configured
    (requireText cfg "driver" "database test requires 'driver' in the configuration")
  let runtime ← serviceRuntime registry "service not found : " serviceName
  let _connStr ← configured ((connectionString lib cfg runtime driver).mapError fun e =>
    "failed to build the connection string: " ++ e)
  answered "failed to connect to the database: " world.sqlOpen
  answered "failed to ping the database: " world.sqlPing
  answered "query failed: " world.sqlQuery
  match ← configured (lookupConfigValue lib cfg "expected_result") with
  | some expectedResult => checkResult lib world expectedResult
  | none => .ok ()

/-- A text of the configuration that may not be empty. -/
def requireNonempty (key message : String) : Except String String := do
  let s ← requireText cfg key message
  if s = "" then .error message else .ok s

def executeDocumentOperation : String → Outcome
  | "insert_one" => do
    let _document ← configured
      (require "insert_one requires 'document' object" (toDocumentMap (cfg.value "document")))
    answered "insert_one failed: " world.insertOne
  | "find_one" => do
    let _filter ← configured
      (require "find_one requires 'filter' object" (toDocumentMap (cfg.value "filter")))
    let matchesPartial ← answered "find_one failed: " world.findOne
    let expectedValue ← configured (lookupConfigValue lib cfg "expected_document")
    let expected ← configured (require "find_one requires 'expected_document' object"
      (expectedValue.bind toDocumentMap))
    expect (matchesPartial expected) "find_one result did not match expected document"
  | "find_many" => do
    let _filter ← configured
      (require "find_many requires 'filter' object" (toDocumentMap (cfg.value "filter")))
    let actual ← answered "find_many failed: " world.findMany
    let expectedValue ← configured (lookupConfigValue lib cfg "expected_documents")
    let expectedDocs ← configured (require "find_many requires 'expected_documents' array"
      (expectedValue.bind toDocumentList))
    expectedDocs.forM fun expected =>
      expect (actual.any fun matchesPartial => matchesPartial expected)
        "expected document not found in find_many results"
  | "update_one" => do
    let _filter ← unmarked
      (require "update_one requires 'filter' object" (toDocumentMap (cfg.value "filter")))
    let _update ← unmarked
      (require "update_one requires 'update' object" (toDocumentMap (cfg.value "update")))
    let matchedCount ← answered "update_one failed: " world.updateOne
    expect (matchedCount ≠ 0) "update_one matched no documents"
  | "delete_one" => do
    let _filter ← unmarked
      (require "delete_one requires 'filter' object" (toDocumentMap (cfg.value "filter")))
    let deletedCount ← answered "delete_one failed: " world.deleteOne
    expect (deletedCount ≠ 0) "delete_one deleted no documents"
  | "count_documents" => do
    let _filter ← unmarked
      (require "count_documents requires 'filter' object" (toDocumentMap (cfg.value "filter")))
    let count ← answered "count_documents failed: " world.countDocuments
    let found ← unmarked (getInt64Config lib cfg "expected_count")
    let expectedCount ← configured (require "count_documents requires 'expected_count'" found)
    expect (count = expectedCount) ("expected " ++ Text.decimal expectedCount.toInt ++
      " documents, got " ++ Text.decimal count.toInt)
  | "exists" => do
    let _filter ← unmarked
      (require "exists requires 'filter' object" (toDocumentMap (cfg.value "filter")))
    let count ← answered "exists failed: " world.countDocuments
    let expectedExists ← unmarked (getBoolOrDefault lib cfg "expected_exists" true)
    expect ((0 < count : Bool) = expectedExists) ("expected exists=" ++ toString expectedExists ++
      ", got exists=" ++ toString (0 < count : Bool))
  | operation => .error (.configuration ("unsupported document operation: " ++ operation))

def executeDocument : Outcome := do
  let serviceName ← configured
    (requireNonempty cfg "service" "document test requires 'service' in the configuration")
  let _databaseName ← configured
    (requireNonempty cfg "database" "document test requires 'database' in the configuration")
  let _collectionName ← configured
    (requireNonempty cfg "collection" "document test requires 'collection' in the configuration")
  let operation ← configured
    (requireNonempty cfg "operation" "document test requires 'operation' in the configuration")
  let runtime ← serviceRuntime registry "service not found : " serviceName
  let mongoURI := (runtime.envVars.get? "MONGODB_URI").getD ""
  if mongoURI = "" then .error (.configuration "MONGODB_URI not found in the service runtime")
  else
    let _mongoURI ← configured ((normalizeURLHost lib mongoURI).mapError fun e =>
      "invalid MONGODB_URI: " ++ e)
    answered "failed to connect to mongodb: " world.mongoConnect
    answered "failed to ping mongodb: " world.mongoPing
    executeDocumentOperation lib world cfg operation

/-! ## Caches -/

def inferCacheType (serviceName : String) : String :=
  if Text.hasPrefix serviceName "redis" then "redis"
  else if Text.hasPrefix serviceName "memcached" then "memcached"
  else "redis"

/-- What a cache returned against the expected value. -/
def checkCached (key : String) (result : Option String) : Outcome := do
  match result, ← unmarked (lookupConfigValue lib cfg "expected_value") with
  | none, some expectedValue =>
    .error (.assertion ("key " ++ key ++ " does not exist, expected: " ++ lib.sprint expectedValue))
  | some actual, some expectedValue =>
    expect (actual = lib.sprint expectedValue) ("expected value " ++
      Text.quote (lib.sprint expectedValue) ++ ", got " ++ Text.quote actual)
  | _, none => .ok ()

/-- `cfg["value"]` is there, be it nil. -/
def requireValue (key message : String) : Except String ConfigValue := require message (cfg.get? key)

def executeRedisOperation : String → Outcome
  | "ping" => answered "" world.redisPing
  | "set" => do
    let _key ← configured (requireText cfg "key" "set operation requires 'key' in the config")
    let _value ← configured (requireValue cfg "value" "set operation requires 'value' in the config")
    let _ttlSeconds ← unmarked (getIntOrDefault lib cfg "ttl" 0)
    answered "" world.redisSet
  | "get" => do
    let key ← configured (requireText cfg "key" "get operation requires 'key' in the config")
    let result ← answered "get operation failed : " world.redisGet
    checkCached lib cfg key result
  | "exists" => do
    let _key ← configured (requireText cfg "key" "exists operation requires 'key' in the config")
    let count ← answered "exists operation failed : " world.redisExists
    match ← unmarked (lookupConfigValue lib cfg "expected_exists") with
    | some _ =>
      let expectedExists ← unmarked (getBoolOrDefault lib cfg "expected_exists" true)
      expect ((0 < count : Bool) = expectedExists) ("expected exists=" ++ toString expectedExists ++
        ", got exists=" ++ toString (0 < count : Bool))
    | none => .ok ()
  | operation =>
    if operation = "delete" || operation = "del" then do
      let _key ← configured (requireText cfg "key" "delete operation requires 'key' in config")
      answered "" world.redisDel
    else .error (.configuration ("unsupported redis operation: " ++ operation))

def executeRedis (runtime : ServiceRuntime) (operation : String) : Outcome := do
  let _port ← configured (require "redis port 6379 not mapped" (runtime.mappedPorts.get? "6379"))
  let _password ← unmarked (getStringOrDefault lib cfg "password" "")
  let _db ← unmarked (getIntOrDefault lib cfg "db" 0)
  answered "failed to connect to redis: " world.redisPing
  executeRedisOperation lib world cfg operation

/-- As for redis, but that there is no `exists`. -/
def executeMemcachedOperation : String → Outcome
  | "ping" => .ok ()
  | "set" => do
    let _key ← configured (requireText cfg "key" "set operation requires 'key' in config")
    let _value ← configured (requireValue cfg "value" "set operation requires 'value' in config")
    let _ttlSeconds ← unmarked (getIntOrDefault lib cfg "ttl" 0)
    answered "" world.memcachedSet
  | "get" => do
    let key ← configured (requireText cfg "key" "get operation requires 'key' in config")
    let result ← answered "get operation failed: " world.memcachedGet
    checkCached lib cfg key result
  | operation =>
    if operation = "delete" || operation = "del" then do
      let _key ← configured (requireText cfg "key" "delete operation requires 'key' in config")
      answered "" world.memcachedDelete
    else .error (.configuration ("unsupported memcached operation: " ++ operation))

def executeMemcached (runtime : ServiceRuntime) (operation : String) : Outcome := do
  let _port ← configured
    (require "memcached port 11211 not mapped" (runtime.mappedPorts.get? "11211"))
  answered "failed to connect to memcached: " world.memcachedPing
  executeMemcachedOperation lib world cfg operation

def executeCache : Outcome := do
  let serviceName ← configured (requireText cfg "service" "cache test requires 'service' in config")
  let operation ← configured (requireText cfg "operation" "cache test requires 'operation' in config")
  let runtime ← serviceRuntime registry "service not found : " serviceName
  let cacheType ← configured (getStringOrDefault lib cfg "cache_type" "")
  match if cacheType = "" then inferCacheType serviceName else cacheType with
  | "redis" => executeRedis lib world cfg runtime operation
  | "memcached" => executeMemcached lib world cfg runtime operation
  | cacheType => .error (.configuration ("unsupported cache type : " ++ cacheType ++
      " (expected 'redis' or 'memcached')"))

/-! ## Queues -/

def inferBrokerType (serviceName : String) : Except String String := do
  match ← lookupConfigValue lib cfg "broker_type" with
  | some _ => getStringOrDefault lib cfg "broker_type" ""
  | none =>
    let lowerName := Text.toLower serviceName
    if Text.contains lowerName "kafka" then .ok "kafka"
    else if Text.contains lowerName "rabbit" then .ok "rabbitmq"
    else if Text.contains lowerName "nats" then .ok "nats"
    else .ok "kafka"

/-- The loop of a consumer: as many messages as are expected, or those that come before the
    deadline. -/
def consumeLoop (context : String) (expected : Option ConfigValue) (ack : Except String Unit) :
    Nat → Messages → Except Failure Nat
  | 0, _ => .ok 0
  | _, [] => .ok 0
  | missing + 1, message :: rest => do
    let actual ← answered context message
    match expected with
    | some value =>
      expect (lib.sprint value = actual) ("expected message " ++ Text.quote (lib.sprint value) ++
        ", got " ++ Text.quote actual)
    | none => pure ()
    answered "failed to ack rabbitmq message: " ack
    let read ← consumeLoop context expected ack missing rest
    .ok (read + 1)

/-- The count of the messages that were consumed. -/
def checkConsumed (expectedCount : Int64) (messagesRead : Nat) : Outcome :=
  expect (expectedCount ≤ 0 || (messagesRead : Int) = expectedCount.toInt)
    ("expected " ++ Text.decimal expectedCount.toInt ++ " messages, got " ++
      Text.decimal messagesRead)

/-- A check whether a topic exists. -/
def checkTopic (topic kind : String) (expectedExists : Bool) (topics : List String) : Outcome :=
  expect (topics.contains topic = expectedExists) ("expected " ++ kind ++ " " ++ topic ++ " exists=" ++
    toString expectedExists ++ " got exists=" ++ toString (topics.contains topic))

def kafkaProduce : Outcome := do
  let _topic ← configured (requireText cfg "topic" "produce operation requires 'topic' in config")
  let _message ← configured
    (requireText cfg "message" "produce operation requires 'message' in config")
  let _key ← unmarked (getStringOrDefault lib cfg "key" "")
  let _partition ← unmarked (getIntOrDefault lib cfg "partition" (-1))
  answered "failed to produce message : " world.kafkaWrite

def kafkaConsume : Outcome := do
  let _topic ← unmarked (requireText cfg "topic" "consume operation requires 'topic' in the config")
  let _timeout ← unmarked (getIntOrDefault lib cfg "timeout" 10)
  let _partition ← unmarked (getIntOrDefault lib cfg "partition" 0)
  let _fromBeginning ← unmarked (getBoolOrDefault lib cfg "from_beginning" false)
  let expectedCount ← unmarked (getIntOrDefault lib cfg "expected_count" 1)
  let expectedMessage ← unmarked (lookupConfigValue lib cfg "expected_message")
  let messagesRead ← consumeLoop lib "failed to consume message : " expectedMessage (.ok ())
    expectedCount.toInt.toNat world.kafkaRead
  checkConsumed expectedCount messagesRead

def kafkaProduceAndConsume : Outcome := do
  let _topic ← unmarked
    (requireText cfg "topic" "produce_and_consume operation requires 'topic' in the config")
  let message ← unmarked
    (requireValue cfg "message" "produce_and_consume operation reqiures 'message' in the topic")
  let _key ← unmarked (getStringOrDefault lib cfg "key" "")
  let _timeout ← unmarked (getIntOrDefault lib cfg "timeout" 10)
  let _partition ← unmarked (getIntOrDefault lib cfg "partition" 0)
  answered "failed to produce message : " world.kafkaWrite
  let actual ← answered "failed to consume message: "
    (world.kafkaRead.head?.getD (.error "context deadline exceeded"))
  expect (actual = lib.sprint message) ("produced message " ++ Text.quote (lib.sprint message) ++
    " but consumed " ++ Text.quote actual)

def normalizeBroker (broker : String) : Except String Unit :=
  match normalizeHostPort lib (Text.trimSpace broker) with
  | .ok _ => .ok ()
  | .error e => .error ("invalid kafka broker " ++ Text.quote broker ++ ": " ++ e)

def executeKafka (runtime : ServiceRuntime) (operation : String) : Outcome := do
  let brokers ← unmarked
    (require "KAFKA_BROKERS not found in the service runtime" (runtime.envVars.get? "KAFKA_BROKERS"))
  (Text.splitAt ',' brokers.toList).forM fun broker =>
    unmarked (normalizeBroker lib (String.ofList broker))
  match operation with
  | "produce" => kafkaProduce lib world cfg
  | "consume" => kafkaConsume lib world cfg
  | "produce_and_consume" => kafkaProduceAndConsume lib world cfg
  | "list_topics" => do
    answered "failed to connect to kafka: " world.kafkaDial
    let _topics ← answered "failed to read partitions: " world.kafkaTopics
    .ok ()
  | operation =>
    if operation = "check_type" || operation = "check_topic" then do
      let topic ← unmarked
        (requireText cfg "topic" "check_topic operation requires 'topic' in the config")
      let expectedExists ← unmarked (getBoolOrDefault lib cfg "expected_exists" true)
      answered "failed to connect kafka : " world.kafkaDial
      let topics ← answered "failed to read partitions : " world.kafkaTopics
      checkTopic topic "topic" expectedExists topics
    else .error (.unmarked ("unsupported kafka operation: " ++ operation))

/-- The name of a queue, which may not be blank. -/
def requireTopic (message : String) : Except String String := do
  let topic ← requireText cfg "topic" message
  if Text.blank topic then .error message else .ok topic

def rabbitMQProduce : Outcome := do
  let queueName ← unmarked (requireTopic cfg "produce operation requires 'topic' in config")
  let _message ← unmarked
    (requireValue cfg "message" "produce operation requires 'message' in config")
  answered ("failed to declare rabbitmq queue " ++ queueName ++ ": ") world.amqpDeclare
  let _key ← unmarked (getStringOrDefault lib cfg "key" "")
  answered "" world.amqpPublish

def rabbitMQConsume : Outcome := do
  let queueName ← unmarked (requireTopic cfg "consume operation requires 'topic' in the config")
  answered ("failed to inspect rabbitmq queue " ++ queueName ++ ": ") world.amqpDeclare
  let _timeoutSeconds ← unmarked (getIntOrDefault lib cfg "timeout" 10)
  let expectedCount ← unmarked (getIntOrDefault lib cfg "expected_count" 1)
  let expectedMessage ← unmarked (lookupConfigValue lib cfg "expected_message")
  let messagesRead ← consumeLoop lib "failed to consume message: " expectedMessage world.amqpAck
    expectedCount.toInt.toNat world.amqpGet
  checkConsumed expectedCount messagesRead

def rabbitMQProduceAndConsume : Outcome := do
  let queueName ← unmarked
    (requireTopic cfg "produce_and_consume operation requires 'topic' in the config")
  let message ← unmarked
    (requireValue cfg "message" "produce_and_consume operation requires 'message' in the config")
  answered ("failed to declare rabbitmq queue " ++ queueName ++ ": ") world.amqpDeclare
  let _key ← unmarked (getStringOrDefault lib cfg "key" "")
  let timeout ← unmarked (getIntOrDefault lib cfg "timeout" 10)
  answered "failed to produce message: " world.amqpPublish
  rabbitMQConsume lib world (GoMap.ofList [("topic", .string queueName), ("timeout", .int timeout),
    ("expected_count", .int 1), ("expected_message", message)])

/-- The address of the management api: the URL without its user, and without slashes at its end. -/
def managementURL (parsed : Url) : String :=
  String.ofList ((parsed.anonymous.toList.reverse.dropWhile (· = '/')).reverse) ++ "/api/queues"

/-- `rabbitMQManagementQueues`. -/
def managementQueues (runtime : ServiceRuntime) : Except Failure (List String) := do
  let httpURL := (runtime.envVars.get? "RABBITMQ_HTTP_URL").getD ""
  if httpURL = "" then .error (.unmarked "RABBITMQ_HTTP_URL not found in the service runtime")
  else
    let httpURL ← unmarked ((normalizeURLHost lib httpURL).mapError fun e =>
      "invalid RABBITMQ_HTTP_URL: " ++ e)
    let parsed ← unmarked ((lib.parseURL httpURL).mapError fun e =>
      "failed to parse rabbitmq http url: " ++ e)
    unmarked ((lib.newRequest "GET" (managementURL parsed)).mapError fun e =>
      "failed to create rabbitmq management request: " ++ e)
    answered "" world.managementQueues

def executeRabbitMQ (runtime : ServiceRuntime) (operation : String) : Outcome := do
  let amqpURL := (runtime.envVars.get? "RABBITMQ_AMQP_URL").getD ""
  if amqpURL = "" then .error (.unmarked "RABBITMQ_AMQP_URL not found in the service runtime")
  else
    let _amqpURL ← unmarked ((normalizeURLHost lib amqpURL).mapError fun e =>
      "invalid RABBITMQ_AMQP_URL: " ++ e)
    answered "failed to connect to rabbitmq: " world.amqpDial
    answered "failed to open rabbitmq channel: " world.amqpChannel
    match operation with
    | "produce" => rabbitMQProduce lib world cfg
    | "consume" => rabbitMQConsume lib world cfg
    | "produce_and_consume" => rabbitMQProduceAndConsume lib world cfg
    | "list_topics" => do
      let _queues ← managementQueues lib world runtime
      .ok ()
    | operation =>
      if operation = "check_type" || operation = "check_topic" then do
        let queueName ← unmarked
          (requireTopic cfg "check_topic operation requires 'topic' in the config")
        let queues ← managementQueues lib world runtime
        let expectedExists ← unmarked (getBoolOrDefault lib cfg "expected_exists" true)
        checkTopic queueName "queue" expectedExists queues
      else .error (.unmarked ("unsupported rabbitmq operation: " ++ operation))

def executeQueue : Outcome := do
  let serviceName ← configured
    (requireText cfg "service" "queue test requires 'service' in the config")
  let operation ← configured
    (requireText cfg "operation" "queue test requires 'operation' in the config")
  let runtime ← serviceRuntime registry "service not found : " serviceName
  match ← configured (inferBrokerType lib cfg serviceName) with
  | "kafka" => executeKafka lib world cfg runtime operation
  | "rabbitmq" => executeRabbitMQ lib world cfg runtime operation
  | brokerType => .error (.configuration ("unsupported broker type : " ++ brokerType ++
      " (expected 'kafka' or 'rabbitmq')"))

/-- The executor that is registered for a type of test (`NewRegistory`). -/
def execute : String → Option Outcome
  | "database" => some (executeDatabase lib registry world cfg)
  | "document" => some (executeDocument lib registry world cfg)
  | "http" => some (executeHTTP lib registry world cfg)
  | "shell" => some (executeShell lib registry world cfg)
  | "cache" => some (executeCache lib registry world cfg)
  | "queue" => some (executeQueue lib registry world cfg)
  | "delay" => some (executeDelay lib world cfg)
  | _ => none

end Execute

end TokyoTester
