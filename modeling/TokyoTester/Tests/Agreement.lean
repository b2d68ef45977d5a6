import TokyoTester.Tests.Executors
import TokyoTester.Bundle.Executable

set_option autoImplicit false

/-! # Validator and executors

A test that passed validation is built into a configuration, and the executor of its type reads
that configuration back. Which of the accepted tests the executor can read, whatever the clients
answer, is decided here type by type. -/

namespace TokyoTester

open Transaction

/-! ## Failures that are not about the configuration -/

section Sound

variable {α β : Type}

/-- The result is not a complaint about the configuration. -/
def Sound (r : Except Failure α) : Prop := ∀ f, r = .error f → f.aboutConfiguration = false

theorem sound_ok (a : α) : Sound (.ok a : Except Failure α) := by
  rintro f ⟨⟩

theorem sound_transport (e : String) : Sound (.error (.transport e) : Except Failure α) := by
  rintro f ⟨⟩
  rfl

theorem sound_assertion (e : String) : Sound (.error (.assertion e) : Except Failure α) := by
  rintro f ⟨⟩
  rfl

theorem sound_answered (context : String) (r : Except String α) : Sound (answered context r) := by
  cases r with
  | ok a => exact sound_ok a
  | error e => exact sound_transport _

theorem sound_expect (ok : Bool) (message : String) : Sound (expect ok message) := by
  unfold expect
  split
  · exact sound_ok ()
  · exact sound_assertion message

/-- What is sound goes on soundly. -/
theorem Sound.bind {x : Except Failure α} {f : α → Except Failure β} (hx : Sound x)
    (hf : ∀ a, x = .ok a → Sound (f a)) : Sound (x >>= f) := by
  cases x with
  | ok a => exact hf a rfl
  | error e =>
      rintro e' ⟨⟩
      exact hx e rfl

theorem sound_forM {xs : List α} {f : α → Outcome} (h : ∀ x ∈ xs, Sound (f x)) :
    Sound (xs.forM f) := by
  induction xs with
  | nil => exact sound_ok ()
  | cons x xs ih =>
      exact (h x (by simp)).bind fun _ _ => ih fun y hy => h y (by simp [hy])

/-- Clients answer first: the complaint comes when all of them succeed. -/
theorem not_sound_configuration (e : String) :
    ¬Sound (.error (.configuration e) : Except Failure α) := fun h => by
  cases h _ rfl

theorem not_sound_unmarked (e : String) : ¬Sound (.error (.unmarked e) : Except Failure α) :=
  fun h => by cases h _ rfl

/-- A complaint that could have been made was not. -/
theorem Sound.configured {r : Except String α} {f : α → Except Failure β}
    (h : Sound (configured r >>= f)) : ∃ a, r = .ok a ∧ Sound (f a) := by
  cases r with
  | ok a => exact ⟨a, rfl, h⟩
  | error e => exact absurd h (not_sound_configuration e)

theorem Sound.unmarked {r : Except String α} {f : α → Except Failure β}
    (h : Sound (unmarked r >>= f)) : ∃ a, r = .ok a ∧ Sound (f a) := by
  cases r with
  | ok a => exact ⟨a, rfl, h⟩
  | error e => exact absurd h (not_sound_unmarked e)

theorem sound_of_bind {x : Except Failure α} {f : α → Except Failure β} (h : Sound (x >>= f)) :
    Sound x := by
  cases x with
  | ok a => exact sound_ok a
  | error e =>
      rintro e' ⟨⟩
      exact h e rfl

end Sound

/-! ## Reading back what was built -/

theorem value_ofList (entries : List (String × ConfigValue)) (key : String) :
    Config.value (GoMap.ofList entries) key
      = ((entries.reverse.find? fun e => e.1 = key).map (·.2)).getD .nil := by
  unfold Config.value
  rw [GoMap.get?_ofList_eq]

/-- The keys that are looked up under an alias too. -/
def lookupKeys : List String :=
  ["method", "path", "port", "headers", "env", "database", "user", "password", "key", "ttl", "db",
    "partition", "timeout", "duration_ms", "expected_status", "expected_body", "expected_output",
    "expected_exit_code", "expected_result", "expected_document", "expected_documents",
    "expected_count", "expected_exists", "expected_value", "expected_message", "cache_type",
    "broker_type", "from_beginning"]

/-- The keys that `buildTestConfig` writes. -/
def builtKeys : List String :=
  ["service", "driver", "query", "collection", "operation", "document", "filter", "update", "body",
    "command", "value", "topic", "message"] ++ lookupKeys

theorem buildTestConfig_keys (test : ScenarioTestDefinition) (defaultService : String)
    (requiredServices : List String) :
    ∀ key ∈ (buildTestConfig test defaultService requiredServices).keys, key ∈ builtKeys := by
  unfold buildTestConfig
  dsimp only
  split
  case h_6 =>
    intro key h
    rw [GoMap.mem_keys_ofList] at h
    revert key
    split <;> simp [builtKeys, lookupKeys]
  all_goals
    intro key h
    rw [GoMap.mem_keys_ofList] at h
    revert key
    simp [builtKeys, lookupKeys]

/-- An alias in camel case is no key that is written. -/
theorem lowerCamel_not_mem_builtKeys : ∀ key ∈ lookupKeys,
    snakeToLowerCamel key = key ∨ snakeToLowerCamel key ∉ builtKeys := by
  decide +kernel

/-! ## What validation accepts -/

theorem append_config_inj {s t : String} (h : s ++ "Config" = t ++ "Config") : s = t := by
  have := congrArg String.toList h
  rw [String.toList_append, String.toList_append] at this
  exact String.toList_inj.1 (List.append_cancel_right this)

/-- The configuration of the test's type is there, and it passed the checks of its type. -/
theorem validateScenarioTestConfig_ok {test : ScenarioTestDefinition} {services : List String}
    (h : validateScenarioTestConfig test services = .ok ()) :
    (∃ c ∈ testConfigs test, c.1 = test.type ++ "Config" ∧ c.2 = true) ∧
      validateTestOfType test services = .ok () := by
  have hchecks : (do
      ensure ((testConfigs test).any fun c => decide (c.1 = test.type ++ "Config") && c.2)
        ("scenario test " ++ Text.quote test.name ++ " of type " ++ Text.quote test.type ++
          " requires " ++ (test.type ++ "Config"))
      (testConfigs test).forM fun c => ensure (!(c.2 && decide (c.1 ≠ test.type ++ "Config")))
        ("scenario test " ++ Text.quote test.name ++ " of type " ++ Text.quote test.type ++
          " must not include " ++ c.1)
      validateTestOfType test services) = .ok () := by
    unfold validateScenarioTestConfig at h
    dsimp only at h
    cases hpolicy : test.retryPolicy with
    | none =>
        rw [hpolicy] at h
        exact h
    | some policy =>
        rw [hpolicy] at h
        obtain ⟨-, -, h⟩ := bind_eq_ok.1 h
        exact h
  rw [ensure_bind_eq_ok] at hchecks
  obtain ⟨hany, hchecks⟩ := hchecks
  obtain ⟨-, -, hchecks⟩ := bind_eq_ok.1 hchecks
  exact ⟨by simpa using hany, hchecks⟩

/-- An accepted test by its type. -/
inductive AcceptedTest (test : ScenarioTestDefinition) : Prop where
  | database (cfg : DatabaseConfig) (type : test.type = "database")
      (config : test.databaseConfig = some cfg)
      (driver : cfg.driver = "postgres" ∨ cfg.driver = "mysql" ∨ cfg.driver = "mariadb")
  | document (cfg : DocumentConfig) (type : test.type = "document")
      (config : test.documentConfig = some cfg) (service : nonBlank cfg.service = true)
      (database : nonBlank cfg.database = true) (collection : nonBlank cfg.collection = true)
      (operation : cfg.operation ∈ ["insert_one", "find_one", "find_many", "update_one",
        "delete_one", "count_documents", "exists"])
  | http (cfg : HTTPConfig) (type : test.type = "http") (config : test.httpConfig = some cfg)
  | shell (cfg : ShellConfig) (type : test.type = "shell") (config : test.shellConfig = some cfg)
  | cache (cfg : CacheConfig) (type : test.type = "cache") (config : test.cacheConfig = some cfg)
      (cacheType : cfg.cacheType = "redis" ∨ cfg.cacheType = "memcached")
      (operation : cfg.operation ∈ ["ping", "set", "get", "exists", "delete", "del"])
  | queue (cfg : QueueConfig) (type : test.type = "queue") (config : test.queueConfig = some cfg)
      (brokerType : cfg.brokerType = "kafka" ∨ cfg.brokerType = "rabbitmq")
      (operation : cfg.operation ∈ ["produce", "consume", "produce_and_consume", "check_topic",
        "list_topics"])
      (topic : cfg.operation = "list_topics" ∨ nonBlank cfg.topic = true)
  | delay (cfg : DelayConfig) (type : test.type = "delay") (config : test.delayConfig = some cfg)
      (duration : 1 ≤ cfg.durationMs)

theorem requireService_ok {test : ScenarioTestDefinition} {services : List String} {name : String}
    {u : Unit} (h : requireService test services name = .ok u) : nonBlank name = true := by
  unfold requireService at h
  exact (ensure_bind_eq_ok.1 h).1

/-- **What passed validation is an accepted test.** -/
theorem acceptedTest_of_validate {test : ScenarioTestDefinition} {services : List String}
    (h : validateScenarioTestConfig test services = .ok ()) : AcceptedTest test := by
  obtain ⟨⟨c, hc, hname, hpresent⟩, hchecks⟩ := validateScenarioTestConfig_ok h
  unfold validateTestOfType at hchecks
  simp only [testConfigs, List.mem_cons, List.not_mem_nil, or_false] at hc
  -- one case for each kind of test, whose own checks are what is left of the validator
  rcases hc with rfl | rfl | rfl | rfl | rfl | rfl | rfl
  · have htype : "database" = test.type := append_config_inj hname
    obtain ⟨cfg, hcfg⟩ := Option.isSome_iff_exists.1 hpresent
    simp only [← htype, hcfg, ensure_bind_eq_ok] at hchecks
    exact .database cfg htype.symm hcfg (by simpa using hchecks.1)
  · have htype : "document" = test.type := append_config_inj hname
    obtain ⟨cfg, hcfg⟩ := Option.isSome_iff_exists.1 hpresent
    simp only [← htype, hcfg] at hchecks
    obtain ⟨u, hservice, hchecks⟩ := bind_eq_ok.1 hchecks
    rw [ensure_bind_eq_ok, ensure_eq_ok, Bool.and_eq_true] at hchecks
    exact .document cfg htype.symm hcfg (requireService_ok hservice) hchecks.1.1 hchecks.1.2
      (by simpa using hchecks.2)
  · have htype : "http" = test.type := append_config_inj hname
    obtain ⟨cfg, hcfg⟩ := Option.isSome_iff_exists.1 hpresent
    exact .http cfg htype.symm hcfg
  · have htype : "shell" = test.type := append_config_inj hname
    obtain ⟨cfg, hcfg⟩ := Option.isSome_iff_exists.1 hpresent
    exact .shell cfg htype.symm hcfg
  · have htype : "cache" = test.type := append_config_inj hname
    obtain ⟨cfg, hcfg⟩ := Option.isSome_iff_exists.1 hpresent
    simp only [← htype, hcfg] at hchecks
    obtain ⟨-, -, hchecks⟩ := bind_eq_ok.1 hchecks
    simp only [ensure_bind_eq_ok] at hchecks
    exact .cache cfg htype.symm hcfg (by simpa using hchecks.1) (by simpa using hchecks.2.1)
  · have htype : "queue" = test.type := append_config_inj hname
    obtain ⟨cfg, hcfg⟩ := Option.isSome_iff_exists.1 hpresent
    simp only [← htype, hcfg] at hchecks
    obtain ⟨-, -, hchecks⟩ := bind_eq_ok.1 hchecks
    simp only [ensure_bind_eq_ok] at hchecks
    exact .queue cfg htype.symm hcfg (by simpa using hchecks.1) (by simpa using hchecks.2.1)
      (by simpa using hchecks.2.2.1)
  · have htype : "delay" = test.type := append_config_inj hname
    obtain ⟨cfg, hcfg⟩ := Option.isSome_iff_exists.1 hpresent
    simp only [← htype, hcfg, ensure_eq_ok, Bool.and_eq_true, decide_eq_true_eq] at hchecks
    exact .delay cfg htype.symm hcfg hchecks.1

/-! ## One executor after the other -/

@[simp] theorem configured_ok {α : Type} (a : α) : configured (.ok a) = .ok a := rfl

@[simp] theorem unmarked_ok {α : Type} (a : α) : unmarked (.ok a) = .ok a := rfl

@[simp] theorem require_some {α : Type} (message : String) (a : α) :
    require message (some a) = .ok a := rfl

@[simp] theorem ok_bind {α β : Type} (a : α) (f : α → Except Failure β) :
    (Except.ok a >>= f) = f a := rfl

@[simp] theorem ok_bind_text {α β : Type} (a : α) (f : α → Except String β) :
    (Except.ok a >>= f) = f a := rfl

@[simp] theorem mapError_ok {ε ε' α : Type} (f : ε → ε') (a : α) :
    Except.mapError f (.ok a) = .ok a := rfl

theorem require_eq_ok {α : Type} {message : String} {value : Option α} {a : α}
    (h : require message value = .ok a) : value = some a := by
  cases value with
  | none => cases h
  | some b => exact congrArg some (Except.ok.inj h)

/-! ### Expected results -/

section Results

variable {lib : Libraries} {world : World} {rules : List (String × Json)} {value : ConfigValue}

/-- The rows disagree with what is expected, or cannot be read. -/
theorem sound_validated {α : Type} (r : Except String α) : Sound (validated world r) := by
  cases r with
  | ok u => exact sound_ok u
  | error e =>
      show Sound (.error (if world.sqlTransient e then .transport e else .assertion e))
      split
      · exact sound_transport e
      · exact sound_assertion e

theorem validated_eq_ok {α : Type} {r : Except String α} {a : α} :
    validated world r = .ok a ↔ r = .ok a := by
  cases r <;> simp [validated, Except.mapError]

theorem mapError_bind {ε ε' α β : Type} {g : ε → ε'} (x : Except ε α) (f : α → Except ε β) :
    (x >>= f).mapError g = (x.mapError g >>= fun a => (f a).mapError g) := by
  cases x <;> rfl

theorem mapError_forM {ε ε' α : Type} {g : ε → ε'} {f : α → Except ε Unit} (xs : List α) :
    (xs.forM f).mapError g = xs.forM fun x => (f x).mapError g := by
  induction xs with
  | nil => rfl
  | cons x xs ih =>
      show (f x >>= fun _ => xs.forM f).mapError g
        = (f x).mapError g >>= fun _ => xs.forM fun x => (f x).mapError g
      rw [mapError_bind, ih]

theorem message_validated {α : Type} (r : Except String α) :
    (validated world r).mapError Failure.message = r := by
  cases r with
  | ok a => rfl
  | error e =>
      show Except.error (if world.sqlTransient e then Failure.transport e else .assertion e).message
        = .error e
      split <;> rfl

theorem checkColumn_message (column : String × Json) :
    (checkColumn lib world column).mapError Failure.message
      = (validateColumn lib.formats world.sqlRows.rows column.1 column.2).mapError fun e =>
          "column " ++ column.1 ++ " validation failed: " ++ e := by
  obtain ⟨name, rules⟩ := column
  cases rules with
  | obj rules => exact message_validated _
  | _ => rfl

theorem checkStructured_message (horder : ∀ columns, (world.sqlOrder columns).1 = columns) :
    (checkStructured lib world rules).mapError Failure.message
      = validateStructured lib.formats world.sqlRows rules := by
  unfold checkStructured validateStructured
  simp only [mapError_bind, message_validated]
  congr with _
  congr with _
  congr with _
  congr with _
  unfold checkColumns
  cases rules.lookup "columns" with
  | none => rfl
  | some e =>
      cases e with
      | obj columns => simp only [mapError_forM, horder, checkColumn_message]
      | _ => rfl

/-- **A result fails with the error of `validateResult`**, when Go ranges over the columns in the
    order of the object. -/
theorem checkResult_message {e : Json} (he : resultJson value = some e)
    (horder : ∀ columns, (world.sqlOrder columns).1 = columns) :
    (checkResult lib world value).mapError Failure.message
      = validateResult lib.formats world.sqlRows e := by
  unfold checkResult validateResult
  simp only [he, require_some, unmarked_ok, ok_bind]
  cases normalizeExpected e with
  | error err => rfl
  | ok n =>
      cases n with
      | null => rfl
      | obj rules => exact checkStructured_message horder
      | _ => exact message_validated _

/-- The normalized expectation is of a type that is compared with rows, and the rules of its columns
    are objects, unless no number of rows is within its bounds. -/
def NormalizedReadable (f : Formats) : Json → Prop
  | .null => False
  | .obj rules =>
      (∃ count, checkMinRows f rules count = .ok () ∧ checkMaxRows f rules count = .ok ()) →
        ∀ columns, rules.lookup "columns" = some (.obj columns) →
          ∀ column ∈ columns, ∃ columnRules, column.2 = .obj columnRules
  | _ => True

/-- The expected result is none, or one that `validateResult` takes. -/
def ResultReadable (f : Formats) (value : ConfigValue) : Prop :=
  value ≠ .nil → ∃ e n, resultJson value = some e ∧ normalizeExpected e = .ok n ∧
    NormalizedReadable f n

theorem checkColumn_sound_iff {column : String × Json} :
    Sound (checkColumn lib world column) ↔ ∃ columnRules, column.2 = .obj columnRules := by
  unfold checkColumn
  dsimp only
  split
  · rename_i columnRules hrules
    exact iff_of_true (sound_validated _) ⟨columnRules, hrules⟩
  · rename_i hrules
    exact iff_of_false (not_sound_unmarked _) fun ⟨columnRules, h⟩ => hrules columnRules h

theorem checkStructured_sound (h : NormalizedReadable lib.formats (.obj rules)) :
    Sound (checkStructured lib world rules) := by
  unfold checkStructured
  refine (sound_validated _).bind fun _ _ => ?_
  refine (sound_validated _).bind fun _ _ => ?_
  refine (sound_validated _).bind fun _ hmin => ?_
  refine (sound_validated _).bind fun _ hmax => ?_
  have hobjects := h ⟨_, validated_eq_ok.1 hmin, validated_eq_ok.1 hmax⟩
  split
  · rename_i columns hcolumns
    refine sound_forM fun column hcolumn => checkColumn_sound_iff.2 ?_
    exact hobjects columns hcolumns column ((world.sqlOrder columns).2.mem_iff.1 hcolumn)
  · exact sound_ok ()

/-- Rows that can be read and are within the bounds get as far as the columns. -/
theorem checkStructured_eq {columns : List (String × Json)} {count : Nat}
    (hrows : world.sqlRows = ⟨[], none, List.replicate count ⟨[], rfl, none⟩, none⟩)
    (hmin : checkMinRows lib.formats rules count = .ok ())
    (hmax : checkMaxRows lib.formats rules count = .ok ())
    (hcolumns : rules.lookup "columns" = some (.obj columns)) :
    checkStructured lib world rules
      = (world.sqlOrder columns).1.forM (checkColumn lib world) := by
  have hscan : ((List.replicate count (⟨[], rfl, none⟩ : SqlRow [])).mapM fun row =>
      row.scan "failed to scan row : ")
        = .ok ((List.replicate count (⟨[], rfl, none⟩ : SqlRow [])).map (·.values)) :=
    mapM_scan_eq_ok.2 ⟨fun row hrow => by rw [List.eq_of_mem_replicate hrow], rfl⟩
  unfold checkStructured
  rw [hrows]
  simp only [SqlRows.getColumns, validated_eq_ok.2 hscan, List.length_replicate,
    validated_eq_ok.2 hmin, validated_eq_ok.2 hmax, hcolumns, ok_bind]
  rfl

/-- Rules of a column that are no object are met when Go comes to them first. -/
theorem not_checkStructured_sound (h : ¬NormalizedReadable lib.formats (.obj rules)) :
    ∃ rows order, ¬Sound (checkStructured lib
      { World.answering with sqlRows := rows, sqlOrder := order } rules) := by
  classical
  simp only [NormalizedReadable, Classical.not_imp, not_forall] at h
  obtain ⟨⟨count, hmin, hmax⟩, columns, hcolumns, column, hcolumn, hbad⟩ := h
  obtain ⟨before, after, rfl⟩ := List.append_of_mem hcolumn
  refine ⟨⟨[], none, List.replicate count ⟨[], rfl, none⟩, none⟩, fun columns =>
    if h : columns = before ++ column :: after then
      ⟨column :: (before ++ after), h ▸ List.perm_middle.symm⟩
    else ⟨columns, .rfl⟩, ?_⟩
  rw [checkStructured_eq rfl hmin hmax hcolumns]
  dsimp only
  rw [dif_pos rfl]
  intro hsound
  exact hbad (checkColumn_sound_iff.1 (sound_of_bind hsound))

theorem checkResult_sound (hvalue : value ≠ .nil) (h : ResultReadable lib.formats value) :
    Sound (checkResult lib world value) := by
  obtain ⟨e, n, he, hn, hread⟩ := h hvalue
  unfold checkResult
  simp only [he, require_some, hn, unmarked_ok, ok_bind]
  cases n with
  | null => exact hread.elim
  | obj rules => exact checkStructured_sound hread
  | _ => exact sound_validated _

theorem resultReadable_of_sound (h : ∀ rows order, Sound (checkResult lib
    { World.answering with sqlRows := rows, sqlOrder := order } value)) :
    ResultReadable lib.formats value := by
  intro _
  obtain ⟨e, he, hrest⟩ := (h World.answering.sqlRows World.answering.sqlOrder).unmarked
  obtain ⟨n, hn, hrest⟩ := hrest.unmarked
  have he := require_eq_ok he
  refine ⟨e, n, he, hn, ?_⟩
  cases n with
  | null => exact not_sound_unmarked _ hrest
  | obj rules =>
      by_contra hbad
      obtain ⟨rows, order, hnot⟩ := not_checkStructured_sound hbad
      have hrules := h rows order
      unfold checkResult at hrules
      simp only [he, require_some, hn, unmarked_ok, ok_bind] at hrules
      exact hnot hrules
  | _ => trivial

end Results

/-- No key contradicts its alias. -/
def Plain (built : Config) : Prop := ∀ key ∈ lookupKeys, Unaliased built key

section Executors

variable {lib : Libraries} {registry : RuntimeRegistry} {built : Config} (keys : Plain built)

include keys

theorem executeDelay_sound {durationMs : Int64}
    (hduration : built.value "duration_ms" = .int durationMs) (hpositive : 1 ≤ durationMs)
    (world : World) : Sound (executeDelay lib world built) := by
  have hkey := keys "duration_ms" (by decide)
  have hnot : ¬durationMs ≤ 0 := fun hle =>
    absurd (Int64.le_trans hpositive hle) (by decide)
  unfold executeDelay
  simp only [lookupConfigValue_eq hkey, getIntOrDefault_int hkey hduration, hduration,
    configured_ok, ok_bind, ConfigValue.present?, Option.isNone_some, Bool.false_eq_true, if_false,
    if_neg hnot]
  cases world.delayInterrupted with
  | none => exact sound_ok ()
  | some e => exact sound_transport e

/-- A database test gets as far as its result. -/
theorem executeDatabase_sound_iff {query service driver : String} {runtime : ServiceRuntime}
    (hquery : built.value "query" = .string query)
    (hservice : built.value "service" = .string service)
    (hdriver : built.value "driver" = .string driver)
    (hruntime : registry.get? service = some runtime) :
    (∀ world, Sound (executeDatabase lib registry world built)) ↔
      (∃ connStr, connectionString lib built runtime driver = .ok connStr) ∧
        ResultReadable lib.formats (built.value "expected_result") := by
  unfold executeDatabase
  simp only [requireText, hquery, hservice, hdriver, ConfigValue.text?, require_some, configured_ok,
    ok_bind, serviceRuntime, hruntime,
    lookupConfigValue_eq (keys "expected_result" (by decide))]
  cases hconn : connectionString lib built runtime driver with
  | error e =>
      refine ⟨fun h => ?_, fun ⟨⟨_, h⟩, _⟩ => by cases h⟩
      exact absurd (h .answering) (not_sound_configuration _)
  | ok connStr =>
      simp only [mapError_ok, configured_ok, ok_bind, Except.ok.injEq, exists_eq', true_and]
      by_cases hvalue : built.value "expected_result" = .nil
      · refine iff_of_true (fun world => ?_) fun h => absurd hvalue h
        rw [hvalue]
        refine (sound_answered _ _).bind fun _ _ => ?_
        exact (sound_answered _ _).bind fun _ _ => (sound_answered _ _).bind fun _ _ => sound_ok ()
      · simp only [ConfigValue.present?_eq_some hvalue]
        constructor
        · exact fun h => resultReadable_of_sound fun rows order =>
            h { World.answering with sqlRows := rows, sqlOrder := order }
        · intro h world
          refine (sound_answered _ _).bind fun _ _ => ?_
          refine (sound_answered _ _).bind fun _ _ => ?_
          exact (sound_answered _ _).bind fun _ _ => checkResult_sound hvalue h

theorem connectionString_isOk {driver database user password : String} {runtime : ServiceRuntime}
    (hdriver : driver = "postgres" ∨ driver = "mysql" ∨ driver = "mariadb")
    (hdatabase : built.value "database" = .string database)
    (huser : built.value "user" = .string user)
    (hpassword : built.value "password" = .string password) :
    (∃ connStr, connectionString lib built runtime driver = .ok connStr) ↔
      ∃ endpoint, runtime.endpoint lib (if driver = "postgres" then "5432" else "3306")
        = .ok endpoint := by
  have hdatabaseKey := keys "database" (by decide)
  have huserKey := keys "user" (by decide)
  have hpasswordKey := keys "password" (by decide)
  unfold connectionString
  rcases hdriver with rfl | rfl | rfl
  · simp only [getStringOrDefault_string hdatabaseKey hdatabase,
      getStringOrDefault_string huserKey huser, getStringOrDefault_string hpasswordKey hpassword,
      ok_bind_text, if_true]
    unfold ServiceRuntime.endpoint
    cases hport : runtime.mappedPorts.get? "5432" with
    | none => simp
    | some port => by_cases hempty : port = "" <;> simp [hempty]
  all_goals
    rw [if_neg (by decide)]
    simp only [getStringOrDefault_string hdatabaseKey hdatabase,
      getStringOrDefault_string huserKey huser, getStringOrDefault_string hpasswordKey hpassword,
      ok_bind_text]
    cases hendpoint : runtime.endpoint lib "3306" with
    | error e => simp [bind, Except.bind]
    | ok endpoint => simp

/-! ### Commands -/

omit keys in
/-- The variables of a command can be filled in exactly when all their references are known. -/
theorem interpolateAll_isOk {key : String} (refs : List String) (resolved : String) :
    (∃ text, interpolateAll registry key refs resolved = .ok text) ↔
      ∀ ref ∈ refs, ∃ text, resolveReference registry ref = .ok text := by
  induction refs generalizing resolved with
  | nil => exact ⟨fun _ => by simp, fun _ => ⟨resolved, rfl⟩⟩
  | cons ref refs ih =>
      rw [List.forall_mem_cons]
      cases href : resolveReference registry ref with
      | error e =>
          simp [interpolateAll, href, Except.mapError, bind, Except.bind]
      | ok text =>
          simp only [interpolateAll, href, mapError_ok, ok_bind_text, ih]
          exact ⟨fun h => ⟨⟨text, rfl⟩, h⟩, fun h => h.2⟩

omit keys in
theorem mapM_isOk {ε α β : Type} {f : α → Except ε β} (xs : List α) :
    (∃ ys, xs.mapM f = .ok ys) ↔ ∀ x ∈ xs, ∃ y, f x = .ok y := by
  induction xs with
  | nil => exact ⟨fun _ => by simp, fun _ => ⟨[], rfl⟩⟩
  | cons x xs ih =>
      rw [List.forall_mem_cons, ← ih, List.mapM_cons]
      constructor
      · rintro ⟨ys, h⟩
        obtain ⟨y, hy, h⟩ := bind_eq_ok.1 h
        obtain ⟨ys', hys, -⟩ := bind_eq_ok.1 h
        exact ⟨⟨y, hy⟩, ys', hys⟩
      · rintro ⟨⟨y, hy⟩, ys, hys⟩
        refine ⟨y :: ys, ?_⟩
        rw [hy, hys]
        rfl

/-- Every reference in the variables of a command is known. -/
def EnvironmentKnown (registry : RuntimeRegistry) (env : GoMap String) : Prop :=
  ∀ e ∈ env.entries, ∀ ref ∈ referencesOf e.2, ∃ text, resolveReference registry ref = .ok text

theorem buildEnvironment_isOk {env : GoMap String} (henv : built.value "env" = .strings env) :
    (∃ vars, buildEnvironment lib registry built = .ok vars) ↔ EnvironmentKnown registry env := by
  unfold buildEnvironment EnvironmentKnown
  rw [getStringMap_strings (keys "env" (by decide)) henv, ok_bind_text]
  rw [mapM_isOk]
  refine forall₂_congr fun e _ => ?_
  have hall : (∃ text, interpolateEnvVar registry e.1 e.2 = .ok text) ↔ _ :=
    interpolateAll_isOk (referencesOf e.2) e.2
  rw [← hall]
  cases interpolateEnvVar registry e.1 e.2 with
  | error err => simp [Except.mapError, bind, Except.bind]
  | ok text => simp

theorem executeShell_sound_iff {command expectedOutput : String} {env : GoMap String}
    {expectedExitCode : Int64} (hcommand : built.value "command" = .string command)
    (henv : built.value "env" = .strings env)
    (houtput : built.value "expected_output" = .string expectedOutput)
    (hcode : built.value "expected_exit_code" = .int expectedExitCode) :
    (∀ world, Sound (executeShell lib registry world built)) ↔ EnvironmentKnown registry env := by
  rw [← (buildEnvironment_isOk keys henv :
    (∃ vars, buildEnvironment lib registry built = .ok vars) ↔ _)]
  unfold executeShell
  simp only [requireText, hcommand, ConfigValue.text?, require_some, configured_ok, ok_bind]
  cases hvars : buildEnvironment lib registry built with
  | error e =>
      refine ⟨fun h => ?_, fun ⟨_, h⟩ => by cases h⟩
      exact absurd (h .answering) (not_sound_configuration e)
  | ok vars =>
      refine ⟨fun _ => ⟨vars, rfl⟩, fun _ world => ?_⟩
      refine (sound_answered _ _).bind fun output _ => ?_
      simp only [lookupConfigValue_eq (keys "expected_output" (by decide)), houtput,
        ConfigValue.present?, require_some, configured_ok, ok_bind,
        getInt64Config_int (keys "expected_exit_code" (by decide)) hcode]
      exact (sound_expect _ _).bind fun _ _ => sound_expect _ _

/-! ### Requests -/

omit keys in
/-- The body that is expected of a response is a text or an object. -/
def BodyReadable : ConfigValue → Prop
  | .nil => True
  | .string _ => True
  | value => ∃ m, toDocumentMap value = some m

omit keys in
theorem checkObject_sound (body : String) (expected : Document) :
    Sound (checkObject lib body expected) := by
  unfold checkObject
  split
  · refine sound_forM fun e _ => ?_
    unfold checkField
    dsimp only
    split
    · exact sound_expect _ _
    · exact sound_assertion _
  · exact sound_assertion _

omit keys in
theorem checkBody_sound {body : String} {value : ConfigValue} (h : BodyReadable value)
    (hvalue : value ≠ .nil) : Sound (checkBody lib body value) := by
  unfold checkBody
  split
  · exact sound_expect _ _
  · rename_i hstring
    obtain ⟨m, hm⟩ : ∃ m, toDocumentMap value = some m := by
      cases value with
      | nil => exact absurd rfl hvalue
      | string s => exact absurd rfl (hstring s)
      | _ => exact h
    rw [hm]
    exact checkObject_sound body m

omit keys in
theorem not_checkBody_sound {body : String} {value : ConfigValue} (h : ¬BodyReadable value) :
    ¬Sound (checkBody lib body value) := by
  have hnone : toDocumentMap value = none := by
    cases value with
    | nil => exact absurd trivial h
    | string s => exact absurd trivial h
    | _ => exact Option.eq_none_iff_forall_ne_some.2 fun m hm => h ⟨m, hm⟩
  unfold checkBody
  split
  · exact absurd trivial h
  · rw [hnone]
    exact not_sound_configuration _

theorem executeHTTP_sound_iff {method path service port : String}
    {headers : GoMap String} {expectedStatus : Int64} {runtime : ServiceRuntime}
    (hmethod : built.value "method" = .string method) (hpath : built.value "path" = .string path)
    (hservice : built.value "service" = .string service)
    (hport : built.value "port" = .string port)
    (hheaders : built.value "headers" = .strings headers)
    (hstatus : built.value "expected_status" = .int expectedStatus)
    (hruntime : registry.get? service = some runtime) :
    (∀ world, Sound (executeHTTP lib registry world built)) ↔
      (∃ endpoint, runtime.endpoint lib port = .ok endpoint ∧
        lib.newRequest method ("http://" ++ endpoint ++ path) = .ok ()) ∧
          BodyReadable (built.value "expected_body") := by
  unfold executeHTTP
  simp only [requireText, serviceRuntime, hservice, ConfigValue.text?, require_some, hruntime,
    getStringOrDefault_string (keys "method" (by decide)) hmethod,
    getStringOrDefault_string (keys "path" (by decide)) hpath,
    getStringOrDefault_string (keys "port" (by decide)) hport, configured_ok, ok_bind]
  cases hendpoint : runtime.endpoint lib port with
  | error e =>
      refine ⟨fun h => ?_, fun ⟨⟨_, h, _⟩, _⟩ => by cases h⟩
      exact absurd (h .answering) (not_sound_configuration _)
  | ok endpoint =>
  simp only [configured_ok, ok_bind, Except.ok.injEq, exists_eq_left']
  cases hrequest : lib.newRequest method ("http://" ++ endpoint ++ path) with
  | error e =>
      refine ⟨fun h => ?_, fun ⟨h, _⟩ => by cases h⟩
      exact absurd (h .answering) (not_sound_configuration _)
  | ok u =>
      simp only [mapError_ok, configured_ok, ok_bind, true_and,
        getStringMap_strings (keys "headers" (by decide)) hheaders,
        getInt64Config_int (keys "expected_status" (by decide)) hstatus,
        lookupConfigValue_eq (keys "expected_body" (by decide))]
      constructor
      · intro h
        by_contra hbody
        have hne : built.value "expected_body" ≠ .nil := fun hnil => hbody (by rw [hnil]; trivial)
        -- the clients answer as is expected, up to the body
        have hworld := h { World.answering with httpDo := .ok expectedStatus }
        simp only [ConfigValue.present?_eq_some hne, World.answering, answered, mapError_ok, ok_bind,
          expect, decide_true, if_true] at hworld
        exact not_checkBody_sound hbody hworld
      · intro h world
        refine (sound_answered _ _).bind fun status _ => ?_
        refine (sound_expect _ _).bind fun _ _ => ?_
        refine (sound_answered _ _).bind fun body _ => ?_
        cases hvalue : built.value "expected_body" with
        | nil => exact sound_ok ()
        | _ => exact checkBody_sound (hvalue ▸ h) (by simp)

/-! ### Documents -/

/-- Every operation on documents reads what it was given, but for a count that is not there. -/
theorem executeDocumentOperation_sound {document filter update expectedDocument : Document}
    {expectedDocuments : List (Option Document)} {expectedExists : Option Bool} {operation : String}
    (hdocument : built.value "document" = .document document)
    (hfilter : built.value "filter" = .document filter)
    (hupdate : built.value "update" = .document update)
    (hexpected : built.value "expected_document" = .document expectedDocument)
    (hexpecteds : built.value "expected_documents" = .documents expectedDocuments)
    (hexists : built.value "expected_exists" = (expectedExists.map .bool).getD .nil)
    (hcount : operation = "count_documents" → ∃ n, built.value "expected_count" = .int n)
    (hoperation : operation ∈ ["insert_one", "find_one", "find_many", "update_one", "delete_one",
      "count_documents", "exists"]) (world : World) :
    Sound (executeDocumentOperation lib world built operation) := by
  have hexistsKey := keys "expected_exists" (by decide)
  simp only [List.mem_cons, List.not_mem_nil, or_false] at hoperation
  -- in the order of the operations above
  rcases hoperation with rfl | rfl | rfl | rfl | rfl | rfl | rfl
  · simp only [executeDocumentOperation, hdocument, toDocumentMap, require_some, configured_ok,
      ok_bind]
    exact sound_answered _ _
  · simp only [executeDocumentOperation, hfilter, toDocumentMap, require_some, configured_ok,
      ok_bind]
    refine (sound_answered _ _).bind fun matchesPartial _ => ?_
    simp only [lookupConfigValue_eq (keys "expected_document" (by decide)), hexpected,
      ConfigValue.present?, Option.bind_some, toDocumentMap, require_some, configured_ok, ok_bind]
    exact sound_expect _ _
  · simp only [executeDocumentOperation, hfilter, toDocumentMap, require_some, configured_ok,
      ok_bind]
    refine (sound_answered _ _).bind fun actual _ => ?_
    simp only [lookupConfigValue_eq (keys "expected_documents" (by decide)), hexpecteds,
      ConfigValue.present?, Option.bind_some, toDocumentList, require_some, configured_ok, ok_bind]
    exact sound_forM fun _ _ => sound_expect _ _
  · simp only [executeDocumentOperation, hfilter, hupdate, toDocumentMap, require_some, unmarked_ok,
      ok_bind]
    exact (sound_answered _ _).bind fun _ _ => sound_expect _ _
  · simp only [executeDocumentOperation, hfilter, toDocumentMap, require_some, unmarked_ok, ok_bind]
    exact (sound_answered _ _).bind fun _ _ => sound_expect _ _
  · obtain ⟨n, hn⟩ := hcount rfl
    simp only [executeDocumentOperation, hfilter, toDocumentMap, require_some, unmarked_ok, ok_bind]
    refine (sound_answered _ _).bind fun count _ => ?_
    simp only [getInt64Config_int (keys "expected_count" (by decide)) hn, unmarked_ok, ok_bind,
      require_some, configured_ok]
    exact sound_expect _ _
  · simp only [executeDocumentOperation, hfilter, toDocumentMap, require_some, unmarked_ok, ok_bind]
    refine (sound_answered _ _).bind fun count _ => ?_
    cases expectedExists with
    | none =>
        simp only [getBoolOrDefault_nil hexistsKey hexists, unmarked_ok, ok_bind]
        exact sound_expect _ _
    | some b =>
        simp only [getBoolOrDefault_bool hexistsKey hexists, unmarked_ok, ok_bind]
        exact sound_expect _ _

/-- A count that is not there is missed when the documents have been counted. -/
theorem not_count_sound {filter : Document} (hfilter : built.value "filter" = .document filter)
    (hcount : built.value "expected_count" = .nil) :
    ¬Sound (executeDocumentOperation lib .answering built "count_documents") := by
  simp only [executeDocumentOperation, hfilter, toDocumentMap, require_some, unmarked_ok, ok_bind,
    World.answering, answered, mapError_ok,
    getInt64Config_nil (keys "expected_count" (by decide)) hcount]
  exact not_sound_configuration _

omit keys in
theorem requireNonempty_ok {key message s : String} (h : built.value key = .string s)
    (hne : nonBlank s = true) : requireNonempty built key message = .ok s := by
  have hempty : s ≠ "" := by
    rintro rfl
    exact absurd hne (by decide)
  simp only [requireNonempty, requireText, h, ConfigValue.text?, require_some, ok_bind_text,
    if_neg hempty]

omit keys in
/-- A document test gets as far as its operation. -/
theorem executeDocument_eq {service database collection operation rawURI mongoURI : String}
    {runtime : ServiceRuntime} (hservice : built.value "service" = .string service)
    (hdatabase : built.value "database" = .string database)
    (hcollection : built.value "collection" = .string collection)
    (hoperation : built.value "operation" = .string operation)
    (hblank : nonBlank service = true ∧ nonBlank database = true ∧ nonBlank collection = true ∧
      nonBlank operation = true)
    (hruntime : registry.get? service = some runtime)
    (hraw : runtime.envVars.get? "MONGODB_URI" = some rawURI) (hne : rawURI ≠ "")
    (huri : normalizeURLHost lib rawURI = .ok mongoURI) (world : World) :
    executeDocument lib registry world built = (do
      answered "failed to connect to mongodb: " world.mongoConnect
      answered "failed to ping mongodb: " world.mongoPing
      executeDocumentOperation lib world built operation) := by
  unfold executeDocument
  simp only [requireNonempty_ok hservice hblank.1, requireNonempty_ok hdatabase hblank.2.1,
    requireNonempty_ok hcollection hblank.2.2.1, requireNonempty_ok hoperation hblank.2.2.2,
    configured_ok, ok_bind, serviceRuntime, hruntime, require_some, hraw, Option.getD_some,
    if_neg hne, huri, mapError_ok]

omit keys in
/-- A document test that makes no complaint has found the address of its service. -/
theorem executeDocument_addressed {service database collection operation : String}
    {runtime : ServiceRuntime} (hservice : built.value "service" = .string service)
    (hdatabase : built.value "database" = .string database)
    (hcollection : built.value "collection" = .string collection)
    (hoperation : built.value "operation" = .string operation)
    (hblank : nonBlank service = true ∧ nonBlank database = true ∧ nonBlank collection = true ∧
      nonBlank operation = true)
    (hruntime : registry.get? service = some runtime) {world : World}
    (h : Sound (executeDocument lib registry world built)) : ∃ uri normalized,
      runtime.envVars.get? "MONGODB_URI" = some uri ∧ uri ≠ "" ∧
        normalizeURLHost lib uri = .ok normalized := by
  unfold executeDocument at h
  simp only [requireNonempty_ok hservice hblank.1, requireNonempty_ok hdatabase hblank.2.1,
    requireNonempty_ok hcollection hblank.2.2.1, requireNonempty_ok hoperation hblank.2.2.2,
    configured_ok, ok_bind, serviceRuntime, hruntime, require_some] at h
  cases hraw : runtime.envVars.get? "MONGODB_URI" with
  | none =>
      simp only [hraw, Option.getD_none, if_pos] at h
      exact absurd h (not_sound_configuration _)
  | some uri =>
      simp only [hraw, Option.getD_some] at h
      by_cases hempty : uri = ""
      · rw [if_pos hempty] at h
        exact absurd h (not_sound_configuration _)
      · rw [if_neg hempty] at h
        obtain ⟨normalized, huri, -⟩ := h.configured
        exact ⟨uri, normalized, rfl, hempty, mapError_eq_ok.1 huri⟩

/-! ### Caches -/

theorem checkCached_sound (key : String) (result : Option String) :
    Sound (checkCached lib built key result) := by
  unfold checkCached
  simp only [lookupConfigValue_eq (keys "expected_value" (by decide)), unmarked_ok, ok_bind]
  split
  · exact sound_assertion _
  · exact sound_expect _ _
  · exact sound_ok ()

/-- What the operations of both caches read. -/
structure CacheValues (built : Config) (key : String) (ttl : Int64) (exists? : Bool) : Prop where
  key : built.value "key" = .string key
  value : ∃ v, built.get? "value" = some v
  ttl : built.value "ttl" = .int ttl
  exists? : built.value "expected_exists" = .bool exists?

variable {key operation : String} {ttl : Int64} {exists? : Bool}

theorem executeRedisOperation_sound (hvalues : CacheValues built key ttl exists?)
    (hoperation : operation ∈ ["ping", "set", "get", "exists", "delete", "del"]) (world : World) :
    Sound (executeRedisOperation lib world built operation) := by
  obtain ⟨v, hv⟩ := hvalues.value
  have httl : getIntOrDefault lib built "ttl" 0 = .ok ttl :=
    getIntOrDefault_int (keys "ttl" (by decide)) hvalues.ttl
  have hexists := keys "expected_exists" (by decide)
  simp only [List.mem_cons, List.not_mem_nil, or_false] at hoperation
  rcases hoperation with rfl | rfl | rfl | rfl | rfl | rfl
  · exact sound_answered _ _
  · simp only [executeRedisOperation, requireText, requireValue, hvalues.key, hv, httl,
      ConfigValue.text?, require_some, configured_ok, unmarked_ok, ok_bind]
    exact sound_answered _ _
  · simp only [executeRedisOperation, requireText, hvalues.key, ConfigValue.text?, require_some,
      configured_ok, ok_bind]
    exact (sound_answered _ _).bind fun result _ => checkCached_sound keys key result
  · simp only [executeRedisOperation, requireText, hvalues.key, ConfigValue.text?, require_some,
      configured_ok, ok_bind]
    refine (sound_answered _ _).bind fun count _ => ?_
    simp only [lookupConfigValue_eq hexists, getBoolOrDefault_bool hexists hvalues.exists?,
      hvalues.exists?, ConfigValue.present?, unmarked_ok, ok_bind]
    exact sound_expect _ _
  all_goals
    simp only [executeRedisOperation, requireText, hvalues.key, ConfigValue.text?, require_some,
      configured_ok, ok_bind]
    exact sound_answered _ _

theorem executeMemcachedOperation_sound (hvalues : CacheValues built key ttl exists?)
    (hoperation : operation ∈ ["ping", "set", "get", "exists", "delete", "del"])
    (hexists : operation ≠ "exists") (world : World) :
    Sound (executeMemcachedOperation lib world built operation) := by
  obtain ⟨v, hv⟩ := hvalues.value
  have httl : getIntOrDefault lib built "ttl" 0 = .ok ttl :=
    getIntOrDefault_int (keys "ttl" (by decide)) hvalues.ttl
  simp only [List.mem_cons, List.not_mem_nil, or_false] at hoperation
  rcases hoperation with rfl | rfl | rfl | rfl | rfl | rfl
  · exact sound_ok ()
  · simp only [executeMemcachedOperation, requireText, requireValue, hvalues.key, hv, httl,
      ConfigValue.text?, require_some, configured_ok, unmarked_ok, ok_bind]
    exact sound_answered _ _
  · simp only [executeMemcachedOperation, requireText, hvalues.key, ConfigValue.text?, require_some,
      configured_ok, ok_bind]
    exact (sound_answered _ _).bind fun result _ => checkCached_sound keys key result
  · exact absurd rfl hexists
  all_goals
    simp only [executeMemcachedOperation, requireText, hvalues.key, ConfigValue.text?, require_some,
      configured_ok, ok_bind]
    exact sound_answered _ _

theorem executeCache_sound_iff {service cacheType password : String} {db : Int64}
    {runtime : ServiceRuntime} (hvalues : CacheValues built key ttl exists?)
    (hservice : built.value "service" = .string service)
    (hoperation : built.value "operation" = .string operation)
    (hcacheType : built.value "cache_type" = .string cacheType)
    (hpassword : built.value "password" = .string password) (hdb : built.value "db" = .int db)
    (htype : cacheType = "redis" ∨ cacheType = "memcached")
    (hknown : operation ∈ ["ping", "set", "get", "exists", "delete", "del"])
    (hruntime : registry.get? service = some runtime) :
    (∀ world, Sound (executeCache lib registry world built)) ↔
      (∃ port, runtime.mappedPorts.get? (if cacheType = "redis" then "6379" else "11211")
        = some port) ∧ ¬(cacheType = "memcached" ∧ operation = "exists") := by
  unfold executeCache
  simp only [requireText, hservice, hoperation, ConfigValue.text?, require_some, configured_ok,
    ok_bind, serviceRuntime, hruntime,
    getStringOrDefault_string (keys "cache_type" (by decide)) hcacheType]
  rcases htype with rfl | rfl
  · rw [if_pos rfl, if_neg (by decide)]
    constructor
    · intro h
      obtain ⟨port, hport, -⟩ := (h .answering).configured
      exact ⟨⟨port, require_eq_ok hport⟩, fun hboth => absurd hboth.1 (by decide)⟩
    · rintro ⟨⟨port, hport⟩, -⟩ world
      simp only [executeRedis, hport, require_some, configured_ok, ok_bind, unmarked_ok,
        getStringOrDefault_string (keys "password" (by decide)) hpassword,
        getIntOrDefault_int (keys "db" (by decide)) hdb]
      exact (sound_answered _ _).bind fun _ _ =>
        executeRedisOperation_sound keys hvalues hknown world
  · rw [if_neg (by decide), if_neg (by decide)]
    constructor
    · intro h
      obtain ⟨port, hport, hrest⟩ := (h .answering).configured
      refine ⟨⟨port, require_eq_ok hport⟩, ?_⟩
      -- memcached has no EXISTS: the operation that the validator lets through is unknown here
      rintro ⟨-, rfl⟩
      exact not_sound_configuration _ hrest
    · rintro ⟨⟨port, hport⟩, hexists⟩ world
      simp only [executeMemcached, hport, require_some, configured_ok, ok_bind]
      exact (sound_answered _ _).bind fun _ _ =>
        executeMemcachedOperation_sound keys hvalues hknown (fun h => hexists ⟨rfl, h⟩) world

/-! ### Queues -/

omit keys in
theorem consumeLoop_sound {context : String} {expected : Option ConfigValue}
    {ack : Except String Unit} (missing : Nat) (messages : Messages) :
    Sound (consumeLoop lib context expected ack missing messages) := by
  induction missing generalizing messages with
  | zero => exact sound_ok 0
  | succ missing ih =>
      cases messages with
      | nil => exact sound_ok 0
      | cons message rest =>
          unfold consumeLoop
          refine (sound_answered _ _).bind fun actual _ => ?_
          have hrest : Sound (do
              answered "failed to ack rabbitmq message: " ack
              let read ← consumeLoop lib context expected ack missing rest
              .ok (read + 1)) :=
            (sound_answered _ _).bind fun _ _ => (ih rest).bind fun read _ => sound_ok _
          cases expected with
          | none => exact hrest
          | some value => exact (sound_expect _ _).bind fun _ _ => hrest

end Executors

end TokyoTester
