import TokyoTester.Tests.Agreement

set_option autoImplicit false

/-! # Which validated tests the executors can read

The queue executors, and the result for all types: an executor complains about the configuration of
a validated test whose service has the ports of the test exactly when validation let something
through that the executor does not take, or the service lacks an address that the executor looks up
(`ReadByExecutor`). -/

namespace TokyoTester

open Transaction

/-- A configuration with no other keys than those that are built. -/
theorem plain_of_keys {cfg : Config} (h : ∀ key ∈ cfg.keys, key ∈ builtKeys) : Plain cfg := by
  intro key hkey
  rcases lowerCamel_not_mem_builtKeys key hkey with hsame | hnone
  · exact .inl hsame
  · refine .inr ?_
    rw [Config.value, GoMap.get?_eq_none.2 fun hmem => hnone (h _ hmem)]
    rfl

/-! ## Queues -/

/-- What the queue operations read. -/
structure QueueValues (built : Config) (topic key : String) (partition timeout count : Int64)
    (fromBeginning exists? : Bool) : Prop where
  topic : built.value "topic" = .string topic
  message : ∃ v, built.get? "message" = some v
  key : built.value "key" = .string key
  partition : built.value "partition" = .int partition
  timeout : built.value "timeout" = .int timeout
  fromBeginning : built.value "from_beginning" = .bool fromBeginning
  count : built.value "expected_count" = .int count
  exists? : built.value "expected_exists" = .bool exists?

section Queues

variable {lib : Libraries} {built : Config} {topic key : String}
  {partition timeout count : Int64} {fromBeginning exists? : Bool} {world : World}

theorem requireText_string {name s : String} (h : built.value name = .string s) (message : String) :
    requireText built name message = .ok s := by
  rw [requireText, h]
  rfl

theorem requireText_none {name : String} (h : (built.value name).text? = none) (message : String) :
    requireText built name message = .error message := by
  rw [requireText, h]
  rfl

theorem requireValue_some {name : String} {v : ConfigValue} (h : built.get? name = some v)
    (message : String) : requireValue built name message = .ok v := by
  rw [requireValue, h]
  rfl

/-- A topic that is not blank. -/
theorem requireTopic_ok (h : built.value "topic" = .string topic) (hblank : nonBlank topic = true)
    (message : String) : requireTopic built message = .ok topic := by
  unfold requireTopic
  rw [requireText_string h, ok_bind_text]
  simpa [nonBlank, Text.blank] using hblank

/-! ### Kafka -/

/-- A message is produced for kafka if it is a text. -/
theorem kafkaProduce_sound_iff (keys : Plain built)
    (h : QueueValues built topic key partition timeout count fromBeginning exists?) :
    (∀ world, Sound (kafkaProduce lib world built)) ↔
      (built.value "message").text?.isSome = true := by
  unfold kafkaProduce
  simp only [requireText_string h.topic, configured_ok, ok_bind]
  cases hmessage : (built.value "message").text? with
  | none =>
      refine iff_of_false (fun hall => ?_) (by simp)
      have hworld := hall .answering
      rw [requireText_none hmessage] at hworld
      exact not_sound_configuration _ hworld
  | some message =>
      refine iff_of_true (fun world => ?_) rfl
      have hread : requireText built "message" "produce operation requires 'message' in config"
          = .ok message := by
        rw [requireText, hmessage]
        rfl
      simp only [hread, getStringOrDefault_string (keys "key" (by decide)) h.key,
        getIntOrDefault_int (keys "partition" (by decide)) h.partition, configured_ok, unmarked_ok,
        ok_bind]
      exact sound_answered _ _

theorem kafkaConsume_sound (keys : Plain built)
    (h : QueueValues built topic key partition timeout count fromBeginning exists?) :
    Sound (kafkaConsume lib world built) := by
  unfold kafkaConsume
  simp only [requireText_string h.topic, getIntOrDefault_int (keys "timeout" (by decide)) h.timeout,
    getIntOrDefault_int (keys "partition" (by decide)) h.partition,
    getBoolOrDefault_bool (keys "from_beginning" (by decide)) h.fromBeginning,
    getIntOrDefault_int (keys "expected_count" (by decide)) h.count,
    lookupConfigValue_eq (keys "expected_message" (by decide)), unmarked_ok, ok_bind]
  exact (consumeLoop_sound _ _).bind fun _ _ => sound_expect _ _

theorem kafkaProduceAndConsume_sound (keys : Plain built)
    (h : QueueValues built topic key partition timeout count fromBeginning exists?) :
    Sound (kafkaProduceAndConsume lib world built) := by
  obtain ⟨v, hv⟩ := h.message
  unfold kafkaProduceAndConsume
  simp only [requireText_string h.topic, requireValue_some hv,
    getStringOrDefault_string (keys "key" (by decide)) h.key,
    getIntOrDefault_int (keys "timeout" (by decide)) h.timeout,
    getIntOrDefault_int (keys "partition" (by decide)) h.partition, unmarked_ok, ok_bind]
  refine (sound_answered _ _).bind fun _ _ => ?_
  exact (sound_answered _ _).bind fun _ _ => sound_expect _ _

/-- The brokers of a service are addresses. -/
def KafkaAddressed (lib : Libraries) (runtime : ServiceRuntime) : Prop :=
  ∃ brokers, runtime.envVars.get? "KAFKA_BROKERS" = some brokers ∧
    ∀ broker ∈ Text.splitAt ',' brokers.toList,
      normalizeBroker lib (String.ofList broker) = .ok ()

/-- Checks one after the other that make no complaint have all passed. -/
theorem eq_ok_of_sound_forM {α : Type} {xs : List α} {f : α → Except String Unit}
    (h : Sound (xs.forM fun x => unmarked (f x))) : ∀ x ∈ xs, f x = .ok () := by
  induction xs with
  | nil => simp
  | cons x xs ih =>
      obtain ⟨u, hu, hrest⟩ := Sound.unmarked h
      rw [List.forall_mem_cons]
      exact ⟨hu, ih hrest⟩

theorem executeKafka_sound_iff {runtime : ServiceRuntime} {operation : String} (keys : Plain built)
    (h : QueueValues built topic key partition timeout count fromBeginning exists?)
    (hoperation : operation ∈ ["produce", "consume", "produce_and_consume", "check_topic",
      "list_topics"]) :
    (∀ world, Sound (executeKafka lib world built runtime operation)) ↔
      KafkaAddressed lib runtime ∧
        (operation = "produce" → (built.value "message").text?.isSome = true) := by
  by_cases haddressed : KafkaAddressed lib runtime
  case neg =>
    refine iff_of_false (fun hall => haddressed ?_) fun hboth => haddressed hboth.1
    obtain ⟨brokers, hfound, hrest⟩ := (hall .answering).unmarked
    exact ⟨brokers, require_eq_ok hfound, eq_ok_of_sound_forM (sound_of_bind hrest)⟩
  rw [and_iff_right haddressed]
  obtain ⟨brokers, hfound, hvalid⟩ := haddressed
  have hall : ((Text.splitAt ',' brokers.toList).forM fun broker =>
      unmarked (normalizeBroker lib (String.ofList broker))) = .ok () := by
    rw [forM_eq_ok]
    intro broker hbroker
    rw [hvalid broker hbroker]
    rfl
  unfold executeKafka
  simp only [hfound, require_some, unmarked_ok, ok_bind, hall]
  simp only [List.mem_cons, List.not_mem_nil, or_false] at hoperation
  rcases hoperation with rfl | rfl | rfl | rfl | rfl
  · simpa using kafkaProduce_sound_iff keys h
  · exact iff_of_true (fun _ => kafkaConsume_sound keys h) fun heq => absurd heq (by decide)
  · exact iff_of_true (fun _ => kafkaProduceAndConsume_sound keys h) fun heq =>
      absurd heq (by decide)
  · refine iff_of_true (fun world => ?_) fun heq => absurd heq (by decide)
    simp only [requireText_string h.topic,
      getBoolOrDefault_bool (keys "expected_exists" (by decide)) h.exists?, unmarked_ok, ok_bind]
    refine (sound_answered _ _).bind fun _ _ => ?_
    exact (sound_answered _ _).bind fun _ _ => sound_expect _ _
  · refine iff_of_true (fun world => ?_) fun heq => absurd heq (by decide)
    exact (sound_answered _ _).bind fun _ _ => (sound_answered _ _).bind fun _ _ => sound_ok ()

/-! ### RabbitMQ -/

theorem rabbitMQConsume_sound (keys : Plain built) (htopic : built.value "topic" = .string topic)
    (hblank : nonBlank topic = true) (htimeout : built.value "timeout" = .int timeout)
    (hcount : built.value "expected_count" = .int count) :
    Sound (rabbitMQConsume lib world built) := by
  unfold rabbitMQConsume
  simp only [requireTopic_ok htopic hblank, unmarked_ok, ok_bind]
  refine (sound_answered _ _).bind fun _ _ => ?_
  simp only [getIntOrDefault_int (keys "timeout" (by decide)) htimeout,
    getIntOrDefault_int (keys "expected_count" (by decide)) hcount,
    lookupConfigValue_eq (keys "expected_message" (by decide)), unmarked_ok, ok_bind]
  exact (consumeLoop_sound _ _).bind fun _ _ => sound_expect _ _

theorem rabbitMQProduce_sound (keys : Plain built)
    (h : QueueValues built topic key partition timeout count fromBeginning exists?)
    (hblank : nonBlank topic = true) : Sound (rabbitMQProduce lib world built) := by
  obtain ⟨v, hv⟩ := h.message
  unfold rabbitMQProduce
  simp only [requireTopic_ok h.topic hblank, requireValue_some hv, unmarked_ok, ok_bind]
  refine (sound_answered _ _).bind fun _ _ => ?_
  simp only [getStringOrDefault_string (keys "key" (by decide)) h.key, unmarked_ok, ok_bind]
  exact sound_answered _ _

/-- The consumer gets a configuration of its own. -/
theorem rabbitMQProduceAndConsume_sound (keys : Plain built)
    (h : QueueValues built topic key partition timeout count fromBeginning exists?)
    (hblank : nonBlank topic = true) : Sound (rabbitMQProduceAndConsume lib world built) := by
  obtain ⟨v, hv⟩ := h.message
  unfold rabbitMQProduceAndConsume
  simp only [requireTopic_ok h.topic hblank, requireValue_some hv, unmarked_ok, ok_bind]
  refine (sound_answered _ _).bind fun _ _ => ?_
  simp only [getStringOrDefault_string (keys "key" (by decide)) h.key,
    getIntOrDefault_int (keys "timeout" (by decide)) h.timeout, unmarked_ok, ok_bind]
  refine (sound_answered _ _).bind fun _ _ => ?_
  refine @rabbitMQConsume_sound lib _ topic timeout 1 world (plain_of_keys ?_) ?_ hblank ?_ ?_
  · intro name hname
    rw [GoMap.mem_keys_ofList] at hname
    revert name
    simp [builtKeys, lookupKeys]
  all_goals
    rw [value_ofList]
    rfl

/-- The management api of a service has an address. -/
def ManagementAddressed (lib : Libraries) (runtime : ServiceRuntime) : Prop :=
  ∃ httpURL normalized parsed, runtime.envVars.get? "RABBITMQ_HTTP_URL" = some httpURL ∧
    httpURL ≠ "" ∧ normalizeURLHost lib httpURL = .ok normalized ∧
    lib.parseURL normalized = .ok parsed ∧ lib.newRequest "GET" (managementURL parsed) = .ok ()

theorem managementQueues_sound_iff {runtime : ServiceRuntime} :
    Sound (managementQueues lib world runtime) ↔ ManagementAddressed lib runtime := by
  constructor
  · intro h
    unfold managementQueues at h
    cases hfound : runtime.envVars.get? "RABBITMQ_HTTP_URL" with
    | none =>
        simp only [hfound, Option.getD_none, if_pos] at h
        exact absurd h (not_sound_unmarked _)
    | some httpURL =>
        simp only [hfound, Option.getD_some] at h
        by_cases hempty : httpURL = ""
        · rw [if_pos hempty] at h
          exact absurd h (not_sound_unmarked _)
        rw [if_neg hempty] at h
        obtain ⟨normalized, hnormalized, h⟩ := h.unmarked
        obtain ⟨parsed, hparsed, h⟩ := h.unmarked
        obtain ⟨u, hrequest, -⟩ := h.unmarked
        exact ⟨httpURL, normalized, parsed, hfound, hempty, mapError_eq_ok.1 hnormalized,
          mapError_eq_ok.1 hparsed, mapError_eq_ok.1 hrequest⟩
  · rintro ⟨httpURL, normalized, parsed, hfound, hne, hnormalized, hparsed, hrequest⟩
    unfold managementQueues
    simp only [hfound, Option.getD_some, if_neg hne, hnormalized, mapError_ok, hparsed, hrequest,
      unmarked_ok, ok_bind]
    exact sound_answered _ _

/-- A service has an address for AMQP, and one for its management api if the operation asks it. -/
def RabbitMQAddressed (lib : Libraries) (runtime : ServiceRuntime) (operation : String) : Prop :=
  (∃ amqpURL normalized, runtime.envVars.get? "RABBITMQ_AMQP_URL" = some amqpURL ∧ amqpURL ≠ "" ∧
    normalizeURLHost lib amqpURL = .ok normalized) ∧
  (operation = "check_topic" ∨ operation = "list_topics" → ManagementAddressed lib runtime)

theorem executeRabbitMQ_sound_iff {runtime : ServiceRuntime} {operation : String}
    (keys : Plain built)
    (h : QueueValues built topic key partition timeout count fromBeginning exists?)
    (hoperation : operation ∈ ["produce", "consume", "produce_and_consume", "check_topic",
      "list_topics"])
    (hblank : operation = "list_topics" ∨ nonBlank topic = true) :
    (∀ world, Sound (executeRabbitMQ lib world built runtime operation)) ↔
      RabbitMQAddressed lib runtime operation := by
  unfold RabbitMQAddressed executeRabbitMQ
  cases hfound : runtime.envVars.get? "RABBITMQ_AMQP_URL" with
  | none =>
      refine iff_of_false (fun hall => ?_) fun ⟨⟨_, _, hnone, _⟩, _⟩ => nomatch hnone
      exact not_sound_unmarked _ (hall .answering)
  | some amqpURL =>
  simp only [Option.getD_some, Option.some.injEq]
  by_cases hempty : amqpURL = ""
  · refine iff_of_false (fun hall => ?_) fun ⟨⟨url, _, hurl, hne, _⟩, _⟩ =>
      hne (hurl.symm.trans hempty)
    have hworld := hall .answering
    rw [if_pos hempty] at hworld
    exact not_sound_unmarked _ hworld
  simp only [if_neg hempty]
  cases hnormalized : normalizeURLHost lib amqpURL with
  | error e =>
      refine iff_of_false (fun hall => ?_) ?_
      · exact not_sound_unmarked _ (hall .answering)
      · rintro ⟨⟨url, normalized, rfl, -, hok⟩, -⟩
        cases hnormalized.symm.trans hok
  | ok normalized =>
  have hamqp : ∃ url text, amqpURL = url ∧ url ≠ "" ∧ normalizeURLHost lib url = .ok text :=
    ⟨amqpURL, normalized, rfl, hempty, hnormalized⟩
  simp only [mapError_ok, unmarked_ok, ok_bind, hamqp, true_and]
  simp only [List.mem_cons, List.not_mem_nil, or_false] at hoperation
  -- only the last two operations ask the management interface
  rcases hoperation with rfl | rfl | rfl | rfl | rfl
  · refine iff_of_true (fun world => ?_) fun heq => absurd heq (by decide)
    refine (sound_answered _ _).bind fun _ _ => (sound_answered _ _).bind fun _ _ => ?_
    exact rabbitMQProduce_sound keys h (hblank.resolve_left (by decide))
  · refine iff_of_true (fun world => ?_) fun heq => absurd heq (by decide)
    refine (sound_answered _ _).bind fun _ _ => (sound_answered _ _).bind fun _ _ => ?_
    exact rabbitMQConsume_sound keys h.topic (hblank.resolve_left (by decide)) h.timeout h.count
  · refine iff_of_true (fun world => ?_) fun heq => absurd heq (by decide)
    refine (sound_answered _ _).bind fun _ _ => (sound_answered _ _).bind fun _ _ => ?_
    exact rabbitMQProduceAndConsume_sound keys h (hblank.resolve_left (by decide))
  · simp only [requireTopic_ok h.topic (hblank.resolve_left (by decide)), unmarked_ok, ok_bind,
      getBoolOrDefault_bool (keys "expected_exists" (by decide)) h.exists?]
    refine ⟨fun hall _ => managementQueues_sound_iff.1 (sound_of_bind (hall .answering)),
      fun hmanagement world => ?_⟩
    refine (sound_answered _ _).bind fun _ _ => (sound_answered _ _).bind fun _ _ => ?_
    exact (managementQueues_sound_iff.2 (hmanagement (by decide))).bind fun _ _ =>
      sound_expect _ _
  · refine ⟨fun hall _ => managementQueues_sound_iff.1 (sound_of_bind (hall .answering)),
      fun hmanagement world => ?_⟩
    refine (sound_answered _ _).bind fun _ _ => (sound_answered _ _).bind fun _ _ => ?_
    exact (managementQueues_sound_iff.2 (hmanagement (by decide))).bind fun _ _ => sound_ok ()

end Queues

theorem executeQueue_sound_iff {lib : Libraries} {registry : RuntimeRegistry} {built : Config}
    {topic key service brokerType operation : String} {partition timeout count : Int64}
    {fromBeginning exists? : Bool} {runtime : ServiceRuntime} (keys : Plain built)
    (h : QueueValues built topic key partition timeout count fromBeginning exists?)
    (hservice : built.value "service" = .string service)
    (hbroker : built.value "broker_type" = .string brokerType)
    (hoperation : built.value "operation" = .string operation)
    (htype : brokerType = "kafka" ∨ brokerType = "rabbitmq")
    (hknown : operation ∈ ["produce", "consume", "produce_and_consume", "check_topic",
      "list_topics"])
    (hblank : operation = "list_topics" ∨ nonBlank topic = true)
    (hruntime : registry.get? service = some runtime) :
    (∀ world, Sound (executeQueue lib registry world built)) ↔
      (if brokerType = "kafka" then KafkaAddressed lib runtime
        else RabbitMQAddressed lib runtime operation) ∧
      (brokerType = "kafka" → operation = "produce" →
        (built.value "message").text?.isSome = true) := by
  have hkey := keys "broker_type" (by decide)
  have hinfer : inferBrokerType lib built service = .ok brokerType := by
    unfold inferBrokerType
    rw [lookupConfigValue_eq hkey, hbroker]
    exact getStringOrDefault_string hkey hbroker
  unfold executeQueue
  simp only [requireText_string hservice, requireText_string hoperation, serviceRuntime, hruntime,
    require_some, hinfer, configured_ok, ok_bind]
  rcases htype with rfl | rfl
  · simpa using executeKafka_sound_iff keys h hknown
  · simpa using executeRabbitMQ_sound_iff keys h hknown hblank

/-! ## All types -/

/-- The service that a configuration names. -/
def builtService (built : Config) : String := ((built.value "service").text?).getD ""

/-- The ports that a test uses. Documents and queues are found under addresses that the service
    gives. -/
def usedPorts (test : ScenarioTestDefinition) : List String :=
  match test.type with
  | "database" =>
      [if test.databaseConfig.map (·.driver) = some "postgres" then "5432" else "3306"]
  | "http" => (test.httpConfig.map (·.port)).toList
  | "cache" => [if test.cacheConfig.map (·.cacheType) = some "redis" then "6379" else "11211"]
  | _ => []

/-- The service has a port with that number, however it is spelled. -/
def ServiceRuntime.HasPort (runtime : ServiceRuntime) (port : String) : Prop :=
  ∃ containerPort hostPort, runtime.mappedPorts.get? containerPort = some hostPort ∧
    hostPort ≠ "" ∧ portNumber containerPort = portNumber port

/-- The service of a test that has one is provisioned with the ports that the test uses. -/
def Provisioned (registry : RuntimeRegistry) (test : ScenarioTestDefinition) (built : Config) :
    Prop :=
  test.type = "shell" ∨ test.type = "delay" ∨
    ∃ runtime, registry.get? (builtService built) = some runtime ∧
      ∀ port ∈ usedPorts test, runtime.HasPort port

/-- The executor of a test finds at the service what it looks up there. -/
def AddressesTest (lib : Libraries) (test : ScenarioTestDefinition) (runtime : ServiceRuntime) :
    Prop :=
  match test.type with
  | "database" => ∃ endpoint, runtime.endpoint lib
      (if test.databaseConfig.map (·.driver) = some "postgres" then "5432" else "3306")
        = .ok endpoint
  | "document" => ∃ uri normalized, runtime.envVars.get? "MONGODB_URI" = some uri ∧ uri ≠ "" ∧
      normalizeURLHost lib uri = .ok normalized
  | "http" => ∀ cfg, test.httpConfig = some cfg → ∃ endpoint,
      runtime.endpoint lib cfg.port = .ok endpoint ∧
        lib.newRequest cfg.method ("http://" ++ endpoint ++ cfg.path) = .ok ()
  | "cache" => ∃ port, runtime.mappedPorts.get?
      (if test.cacheConfig.map (·.cacheType) = some "redis" then "6379" else "11211") = some port
  | "queue" =>
      if test.queueConfig.map (·.brokerType) = some "kafka" then KafkaAddressed lib runtime
      else RabbitMQAddressed lib runtime ((test.queueConfig.map (·.operation)).getD "produce")
  | _ => True

/-- The executor of a test can read its payload. -/
def PayloadReadable (lib : Libraries) (registry : RuntimeRegistry) (test : ScenarioTestDefinition) :
    Prop :=
  match test.type with
  | "database" => ∀ cfg, test.databaseConfig = some cfg →
      ResultReadable lib.formats (anyOr cfg.expectedResult .nil)
  | "document" => ∀ cfg, test.documentConfig = some cfg →
      cfg.operation = "count_documents" → cfg.expectedCount.isSome = true
  | "http" => ∀ cfg, test.httpConfig = some cfg →
      BodyReadable (.ofAny (translateExpectedHTTPBody cfg.expectedBody))
  | "shell" => ∀ cfg, test.shellConfig = some cfg → EnvironmentKnown registry cfg.env
  | "cache" => ∀ cfg, test.cacheConfig = some cfg →
      ¬(cfg.cacheType = "memcached" ∧ cfg.operation = "exists")
  | "queue" => ∀ cfg, test.queueConfig = some cfg → cfg.brokerType = "kafka" →
      cfg.operation = "produce" → (anyOr cfg.message (.string "")).text?.isSome = true
  | _ => True

/-- What the executor of a test asks of it, and of its service, beyond validation and the ports. -/
structure ReadByExecutor (lib : Libraries) (registry : RuntimeRegistry)
    (test : ScenarioTestDefinition) (built : Config) : Prop where
  addressed : ∀ runtime, registry.get? (builtService built) = some runtime →
    AddressesTest lib test runtime
  payload : PayloadReadable lib registry test

theorem readByExecutor_iff {lib : Libraries} {registry : RuntimeRegistry}
    {test : ScenarioTestDefinition} {built : Config} {runtime : ServiceRuntime}
    (hruntime : registry.get? (builtService built) = some runtime) :
    ReadByExecutor lib registry test built ↔
      AddressesTest lib test runtime ∧ PayloadReadable lib registry test := by
  refine ⟨fun h => ⟨h.addressed runtime hruntime, h.payload⟩, fun h => ⟨?_, h.2⟩⟩
  intro runtime' hruntime'
  obtain rfl := Option.some.inj (hruntime.symm.trans hruntime')
  exact h.1

section Types

variable {lib : Libraries} {registry : RuntimeRegistry} {test : ScenarioTestDefinition}
  {defaultService : String} {requiredServices : List String} {built : Config}
  (hbuilt : built = buildTestConfig test defaultService requiredServices)

include hbuilt

theorem plain_built : Plain built :=
  hbuilt ▸ plain_of_keys (buildTestConfig_keys test defaultService requiredServices)

theorem database_sound_iff {cfg : DatabaseConfig} (type : test.type = "database")
    (config : test.databaseConfig = some cfg)
    (hdriver : cfg.driver = "postgres" ∨ cfg.driver = "mysql" ∨ cfg.driver = "mariadb")
    (h : Provisioned registry test built) :
    (∀ world, Sound (executeDatabase lib registry world built)) ↔
      ReadByExecutor lib registry test built := by
  have hservice :
      built.value "service" = .string (targetService defaultService requiredServices) := by
    simp only [hbuilt, buildTestConfig, type, value_ofList]
    rfl
  have hdriverValue : built.value "driver" = .string cfg.driver := by
    simp only [hbuilt, buildTestConfig, type, config, value_ofList]
    rfl
  have hdatabase : built.value "database" = .string cfg.database := by
    simp only [hbuilt, buildTestConfig, type, config, value_ofList]
    rfl
  have huser : built.value "user" = .string cfg.user := by
    simp only [hbuilt, buildTestConfig, type, config, value_ofList]
    rfl
  have hpassword : built.value "password" = .string cfg.password := by
    simp only [hbuilt, buildTestConfig, type, config, value_ofList]
    rfl
  have hquery : built.value "query" = .string cfg.query := by
    simp only [hbuilt, buildTestConfig, type, config, value_ofList]
    rfl
  have hresult : built.value "expected_result" = anyOr cfg.expectedResult .nil := by
    simp only [hbuilt, buildTestConfig, type, config, value_ofList]
    rfl
  obtain ⟨runtime, hruntime, -⟩ := (h.resolve_left (by simp [type])).resolve_left (by simp [type])
  rw [readByExecutor_iff hruntime]
  simp only [builtService, hservice, ConfigValue.text?, Option.getD_some] at hruntime
  rw [executeDatabase_sound_iff (plain_built hbuilt) hquery hservice hdriverValue hruntime,
    connectionString_isOk (plain_built hbuilt) hdriver hdatabase huser hpassword, hresult]
  simp [AddressesTest, PayloadReadable, type, config]

theorem document_sound_iff {cfg : DocumentConfig} (type : test.type = "document")
    (config : test.documentConfig = some cfg) (hservice : nonBlank cfg.service = true)
    (hdatabase : nonBlank cfg.database = true) (hcollection : nonBlank cfg.collection = true)
    (hknown : cfg.operation ∈ ["insert_one", "find_one", "find_many", "update_one",
      "delete_one", "count_documents", "exists"])
    (h : Provisioned registry test built) :
    (∀ world, Sound (executeDocument lib registry world built)) ↔
      ReadByExecutor lib registry test built := by
  -- what the executor reads of the built config
  have hserviceValue : built.value "service" = .string cfg.service := by
    simp only [hbuilt, buildTestConfig, type, config, value_ofList]
    rfl
  have hdatabaseValue : built.value "database" = .string cfg.database := by
    simp only [hbuilt, buildTestConfig, type, config, value_ofList]
    rfl
  have hcollectionValue : built.value "collection" = .string cfg.collection := by
    simp only [hbuilt, buildTestConfig, type, config, value_ofList]
    rfl
  have hoperation : built.value "operation" = .string cfg.operation := by
    simp only [hbuilt, buildTestConfig, type, config, value_ofList]
    rfl
  have hdocument : built.value "document" = .document cfg.document := by
    simp only [hbuilt, buildTestConfig, type, config, value_ofList]
    rfl
  have hfilter : built.value "filter" = .document cfg.filter := by
    simp only [hbuilt, buildTestConfig, type, config, value_ofList]
    rfl
  have hupdate : built.value "update" = .document cfg.update := by
    simp only [hbuilt, buildTestConfig, type, config, value_ofList]
    rfl
  have hexpected : built.value "expected_document" = .document cfg.expectedDocument := by
    simp only [hbuilt, buildTestConfig, type, config, value_ofList]
    rfl
  have hexpecteds : built.value "expected_documents" = .documents cfg.expectedDocuments := by
    simp only [hbuilt, buildTestConfig, type, config, value_ofList]
    rfl
  have hcount : built.value "expected_count" = (cfg.expectedCount.map .int).getD .nil := by
    simp only [hbuilt, buildTestConfig, type, config, value_ofList]
    rfl
  have hexists : built.value "expected_exists" = (cfg.expectedExists.map .bool).getD .nil := by
    simp only [hbuilt, buildTestConfig, type, config, value_ofList]
    rfl
  obtain ⟨runtime, hruntime, -⟩ := (h.resolve_left (by simp [type])).resolve_left (by simp [type])
  rw [readByExecutor_iff hruntime]
  simp only [builtService, hserviceValue, ConfigValue.text?, Option.getD_some] at hruntime
  have hoperationBlank : nonBlank cfg.operation = true := by
    revert hknown
    generalize cfg.operation = operation
    simp only [List.mem_cons, List.not_mem_nil, or_false]
    rintro (rfl | rfl | rfl | rfl | rfl | rfl | rfl) <;> decide
  have hblank : nonBlank cfg.service = true ∧ nonBlank cfg.database = true ∧
      nonBlank cfg.collection = true ∧ nonBlank cfg.operation = true :=
    ⟨hservice, hdatabase, hcollection, hoperationBlank⟩
  have haddressed : AddressesTest lib test runtime ↔ ∃ uri normalized,
      runtime.envVars.get? "MONGODB_URI" = some uri ∧ uri ≠ "" ∧
        normalizeURLHost lib uri = .ok normalized := by
    simp only [AddressesTest, type]
  have hpayload : PayloadReadable lib registry test ↔
      (cfg.operation = "count_documents" → cfg.expectedCount.isSome = true) := by
    simp [PayloadReadable, type, config]
  rw [haddressed, hpayload]
  constructor
  -- with services that answer everything the executor fails at its configuration only
  · intro hall
    obtain ⟨uri, normalized, hraw, hne, huri⟩ := executeDocument_addressed hserviceValue
      hdatabaseValue hcollectionValue hoperation hblank hruntime (hall .answering)
    have heq := executeDocument_eq hserviceValue hdatabaseValue hcollectionValue hoperation hblank
      hruntime hraw hne huri
    refine ⟨⟨uri, normalized, hraw, hne, huri⟩, fun hcountOperation => ?_⟩
    by_contra hnone
    have hnil : built.value "expected_count" = .nil := by
      rw [hcount, Option.not_isSome_iff_eq_none.1 hnone]
      rfl
    have hworld := hall .answering
    rw [heq, hcountOperation] at hworld
    exact not_count_sound (plain_built hbuilt) hfilter hnil hworld
  · rintro ⟨⟨uri, normalized, hraw, hne, huri⟩, hcounted⟩ world
    rw [executeDocument_eq hserviceValue hdatabaseValue hcollectionValue hoperation hblank hruntime
      hraw hne huri]
    refine (sound_answered _ _).bind fun _ _ => ?_
    refine (sound_answered _ _).bind fun _ _ => ?_
    refine executeDocumentOperation_sound (plain_built hbuilt) hdocument hfilter hupdate hexpected
      hexpecteds hexists ?_ hknown world
    intro hcountOperation
    obtain ⟨n, hn⟩ := Option.isSome_iff_exists.1 (hcounted hcountOperation)
    exact ⟨n, by rw [hcount, hn]; rfl⟩

theorem http_sound_iff {cfg : HTTPConfig} (type : test.type = "http")
    (config : test.httpConfig = some cfg) (h : Provisioned registry test built) :
    (∀ world, Sound (executeHTTP lib registry world built)) ↔
      ReadByExecutor lib registry test built := by
  have hservice :
      built.value "service" = .string (targetService defaultService requiredServices) := by
    simp only [hbuilt, buildTestConfig, type, value_ofList]
    rfl
  have hmethod : built.value "method" = .string cfg.method := by
    simp only [hbuilt, buildTestConfig, type, config, value_ofList]
    rfl
  have hpath : built.value "path" = .string cfg.path := by
    simp only [hbuilt, buildTestConfig, type, config, value_ofList]
    rfl
  have hport : built.value "port" = .string cfg.port := by
    simp only [hbuilt, buildTestConfig, type, config, value_ofList]
    rfl
  have hheaders : built.value "headers" = .strings cfg.headers := by
    simp only [hbuilt, buildTestConfig, type, config, value_ofList]
    rfl
  have hstatus : built.value "expected_status" = .int cfg.expectedStatus := by
    simp only [hbuilt, buildTestConfig, type, config, value_ofList]
    rfl
  have hbody :
      built.value "expected_body" = .ofAny (translateExpectedHTTPBody cfg.expectedBody) := by
    simp only [hbuilt, buildTestConfig, type, config, value_ofList]
    rfl
  obtain ⟨runtime, hruntime, -⟩ := (h.resolve_left (by simp [type])).resolve_left (by simp [type])
  rw [readByExecutor_iff hruntime]
  simp only [builtService, hservice, ConfigValue.text?, Option.getD_some] at hruntime
  rw [executeHTTP_sound_iff (plain_built hbuilt) hmethod hpath hservice hport hheaders hstatus
    hruntime, hbody]
  simp [AddressesTest, PayloadReadable, type, config]

theorem shell_sound_iff {cfg : ShellConfig} (type : test.type = "shell")
    (config : test.shellConfig = some cfg) :
    (∀ world, Sound (executeShell lib registry world built)) ↔
      ReadByExecutor lib registry test built := by
  have hcommand : built.value "command" = .string cfg.command := by
    simp only [hbuilt, buildTestConfig, type, config, value_ofList]
    rfl
  have henv : built.value "env" = .strings cfg.env := by
    simp only [hbuilt, buildTestConfig, type, config, value_ofList]
    rfl
  have houtput : built.value "expected_output" = .string cfg.expectedOutput := by
    simp only [hbuilt, buildTestConfig, type, config, value_ofList]
    rfl
  have hcode : built.value "expected_exit_code" = .int cfg.expectedExitCode := by
    simp only [hbuilt, buildTestConfig, type, config, value_ofList]
    rfl
  rw [executeShell_sound_iff (plain_built hbuilt) hcommand henv houtput hcode]
  have hpayload : PayloadReadable lib registry test ↔ EnvironmentKnown registry cfg.env := by
    simp [PayloadReadable, type, config]
  exact ⟨fun h => ⟨fun _ _ => by simp [AddressesTest, type], hpayload.2 h⟩,
    fun h => hpayload.1 h.payload⟩

theorem cache_sound_iff {cfg : CacheConfig} (type : test.type = "cache")
    (config : test.cacheConfig = some cfg)
    (htype : cfg.cacheType = "redis" ∨ cfg.cacheType = "memcached")
    (hknown : cfg.operation ∈ ["ping", "set", "get", "exists", "delete", "del"])
    (h : Provisioned registry test built) :
    (∀ world, Sound (executeCache lib registry world built)) ↔
      ReadByExecutor lib registry test built := by
  have hservice : built.value "service" = .string cfg.service := by
    simp only [hbuilt, buildTestConfig, type, config, value_ofList]
    rfl
  have hcacheType : built.value "cache_type" = .string cfg.cacheType := by
    simp only [hbuilt, buildTestConfig, type, config, value_ofList]
    rfl
  have hoperation : built.value "operation" = .string cfg.operation := by
    simp only [hbuilt, buildTestConfig, type, config, value_ofList]
    rfl
  have hkey : built.value "key" = .string cfg.key := by
    simp only [hbuilt, buildTestConfig, type, config, value_ofList]
    rfl
  have hvalue : ∃ v, built.get? "value" = some v := by
    simp only [hbuilt, buildTestConfig, type, config, GoMap.get?_ofList_eq]
    exact ⟨_, rfl⟩
  have httl : built.value "ttl" = .int cfg.ttl := by
    simp only [hbuilt, buildTestConfig, type, config, value_ofList]
    rfl
  have hexists : built.value "expected_exists" = .bool (cfg.expectedExists.getD false) := by
    simp only [hbuilt, buildTestConfig, type, config, value_ofList]
    rfl
  have hdb : built.value "db" = .int cfg.db := by
    simp only [hbuilt, buildTestConfig, type, config, value_ofList]
    rfl
  have hpassword : built.value "password" = .string cfg.password := by
    simp only [hbuilt, buildTestConfig, type, config, value_ofList]
    rfl
  obtain ⟨runtime, hruntime, -⟩ := (h.resolve_left (by simp [type])).resolve_left (by simp [type])
  rw [readByExecutor_iff hruntime]
  simp only [builtService, hservice, ConfigValue.text?, Option.getD_some] at hruntime
  rw [executeCache_sound_iff (plain_built hbuilt) ⟨hkey, hvalue, httl, hexists⟩ hservice hoperation
    hcacheType hpassword hdb htype hknown hruntime]
  simp [AddressesTest, PayloadReadable, type, config]

theorem queue_sound_iff {cfg : QueueConfig} (type : test.type = "queue")
    (config : test.queueConfig = some cfg)
    (htype : cfg.brokerType = "kafka" ∨ cfg.brokerType = "rabbitmq")
    (hknown : cfg.operation ∈ ["produce", "consume", "produce_and_consume", "check_topic",
      "list_topics"])
    (hblank : cfg.operation = "list_topics" ∨ nonBlank cfg.topic = true)
    (h : Provisioned registry test built) :
    (∀ world, Sound (executeQueue lib registry world built)) ↔
      ReadByExecutor lib registry test built := by
  -- the config has one key more when a message is expected, after all of these
  have hservice : built.value "service" = .string cfg.service := by
    simp only [hbuilt, buildTestConfig, type, config, value_ofList, Option.bind_some]
    cases cfg.expectedMessage <;> rfl
  have hbroker : built.value "broker_type" = .string cfg.brokerType := by
    simp only [hbuilt, buildTestConfig, type, config, value_ofList, Option.bind_some]
    cases cfg.expectedMessage <;> rfl
  have hoperation : built.value "operation" = .string cfg.operation := by
    simp only [hbuilt, buildTestConfig, type, config, value_ofList, Option.bind_some]
    cases cfg.expectedMessage <;> rfl
  have htopic : built.value "topic" = .string cfg.topic := by
    simp only [hbuilt, buildTestConfig, type, config, value_ofList, Option.bind_some]
    cases cfg.expectedMessage <;> rfl
  have hmessage : built.value "message" = anyOr cfg.message (.string "") := by
    simp only [hbuilt, buildTestConfig, type, config, value_ofList, Option.bind_some]
    cases cfg.expectedMessage <;> rfl
  have hpresent : ∃ v, built.get? "message" = some v := by
    simp only [hbuilt, buildTestConfig, type, config, GoMap.get?_ofList_eq, Option.bind_some]
    cases cfg.expectedMessage <;> exact ⟨_, rfl⟩
  have hkey : built.value "key" = .string cfg.key := by
    simp only [hbuilt, buildTestConfig, type, config, value_ofList, Option.bind_some]
    cases cfg.expectedMessage <;> rfl
  have hpartition : built.value "partition" = .int cfg.partition := by
    simp only [hbuilt, buildTestConfig, type, config, value_ofList, Option.bind_some]
    cases cfg.expectedMessage <;> rfl
  have htimeout : built.value "timeout" = .int cfg.timeout := by
    simp only [hbuilt, buildTestConfig, type, config, value_ofList, Option.bind_some]
    cases cfg.expectedMessage <;> rfl
  have hbeginning : built.value "from_beginning" = .bool cfg.fromBeginning := by
    simp only [hbuilt, buildTestConfig, type, config, value_ofList, Option.bind_some]
    cases cfg.expectedMessage <;> rfl
  have hcount : built.value "expected_count" = .int cfg.expectedCount := by
    simp only [hbuilt, buildTestConfig, type, config, value_ofList, Option.bind_some]
    cases cfg.expectedMessage <;> rfl
  have hexists : built.value "expected_exists" = .bool (cfg.expectedExists.getD true) := by
    simp only [hbuilt, buildTestConfig, type, config, value_ofList, Option.bind_some]
    cases cfg.expectedMessage <;> rfl
  obtain ⟨runtime, hruntime, -⟩ := (h.resolve_left (by simp [type])).resolve_left (by simp [type])
  rw [readByExecutor_iff hruntime]
  simp only [builtService, hservice, ConfigValue.text?, Option.getD_some] at hruntime
  rw [executeQueue_sound_iff (plain_built hbuilt)
    ⟨htopic, hpresent, hkey, hpartition, htimeout, hbeginning, hcount, hexists⟩ hservice hbroker
    hoperation htype hknown hblank hruntime, hmessage]
  simp [AddressesTest, PayloadReadable, type, config]

theorem delay_sound {cfg : DelayConfig} (type : test.type = "delay")
    (config : test.delayConfig = some cfg) (hduration : 1 ≤ cfg.durationMs) (world : World) :
    Sound (executeDelay lib world built) := by
  have hvalue : built.value "duration_ms" = .int cfg.durationMs := by
    simp only [hbuilt, buildTestConfig, type, config]
    rfl
  exact executeDelay_sound (plain_built hbuilt) hvalue hduration world

end Types

/-- Go's libraries on texts, integers and truth values, without a network. -/
def textLibraries : Libraries where
  sprint
    | .string s => s
    | .int n => Text.decimal n.toInt
    | .bool b => toString b
    | _ => "<nil>"
  integralFloat _ := none
  formatFloat literal := literal
  sameFloat _ _ := false
  deepEqual _ _ := false
  parseURL raw := .error ("parse " ++ Text.quote raw)
  splitHostPort address := .error ("address " ++ address ++ ": missing port in address")
  isLoopback _ := false
  newRequest _ _ := .ok ()
  formats := plainFormats

/-- A test of a memcached service. -/
def memcachedTest (operation : String) : ScenarioTestDefinition where
  id := "t1"
  name := "cached"
  type := "cache"
  targetServices := ["cache"]
  cacheConfig := some
    { service := "cache", cacheType := "memcached", operation := operation, key := "k" }

/-- A running memcached with its port. -/
def memcachedRuntime : ServiceRuntime where
  name := "cache"
  host := "cache"
  mappedPorts := GoMap.ofList [("11211", "32768")]
  envVars := .empty

def memcachedRegistry : RuntimeRegistry := GoMap.ofList [("cache", memcachedRuntime)]

theorem memcachedTest_provisioned (operation : String) :
    Provisioned memcachedRegistry (memcachedTest operation)
      (buildTestConfig (memcachedTest operation) "cache" ["cache"]) := by
  refine .inr (.inr ⟨memcachedRuntime, ?_, ?_⟩)
  · simp only [builtService, buildTestConfig, memcachedTest, value_ofList]
    rfl
  · simp only [usedPorts, memcachedTest, List.forall_mem_singleton]
    refine ⟨"11211", "32768", ?_, by decide, rfl⟩
    simp only [memcachedRuntime, GoMap.get?_ofList_eq]
    rfl

end TokyoTester
