import TokyoTester.Bundle.Validation
import TokyoTester.Library.Shape
import TokyoTester.Library.Table

set_option autoImplicit false

/-! # Strict decoding of bundles (`pkg/workflowbundle/strict_json.go`)

`Decode` reads a bundle twice. `rejectUnknownBundleFields` goes through the untyped value, where it
looks members up by their exact names, and compares the members of each object with an allow-list.
The struct is decoded by the rules of `encoding/json`, which binds members to fields up to case and
decodes a repeated member again. -/

namespace TokyoTester

open Codec Fields Shape Transaction

/-! ## Objects of a bundle -/

/-- The structs of a bundle. -/
inductive BundleObject where
  | root | workflow | node | nodeData | service | port | env | waitStratergy | initScript
  | mockServer | expectation | request | response | edge | edgeData | scenario | test | retryPolicy
  | databaseConfig | documentConfig | httpConfig | expectedBody | shellConfig | cacheConfig
  | queueConfig | delayConfig
deriving DecidableEq, Repr, Inhabited

/-- The allow-list of an object, if it has one. -/
def BundleObject.allowed : BundleObject → Option (List String)
  | root => some ["schemaVersion", "kind", "workflow", "scenarios"]
  | workflow => some ["name", "description", "nodes", "edges"]
  | service => some ["type", "image", "command", "ports", "env", "waitStratergy", "initScripts",
      "mockServer", "registry"]
  | port => some ["id", "hostPort", "containerPort"]
  | env => some ["id", "key", "value"]
  | waitStratergy => some ["enabled", "type", "target", "timeout"]
  | initScript => some ["id", "order", "script", "description"]
  | mockServer => some ["expectations"]
  | expectation => some ["id", "request", "response"]
  | request => some ["method", "path", "headers", "body"]
  | response => some ["statusCode", "headers", "body"]
  | edgeData => some ["relation", "readiness", "label", "description", "protocol", "needsReview"]
  | scenario => some ["name", "description", "tests", "testOrder"]
  | test => some ["id", "name", "type", "targetServices", "dependsOnTestIds", "retryPolicy",
      "databaseConfig", "documentConfig", "httpConfig", "shellConfig", "cacheConfig", "queueConfig",
      "delayConfig"]
  | retryPolicy => some ["mode", "idempotencyConfirmed"]
  | databaseConfig => some ["driver", "database", "user", "password", "query", "expectedResult"]
  | documentConfig => some ["service", "database", "collection", "operation", "document", "filter",
      "update", "expectedDocument", "expectedDocuments", "expectedCount", "expectedExists"]
  | httpConfig => some ["method", "path", "port", "headers", "body", "expectedStatus",
      "expectedBody"]
  | expectedBody => some ["mode", "value"]
  | shellConfig => some ["command", "env", "expectedOutput", "expectedExitCode"]
  | cacheConfig => some ["service", "cacheType", "operation", "key", "value", "expectedValue",
      "expectedExists", "ttl", "db", "password"]
  | queueConfig => some ["service", "brokerType", "operation", "topic", "message", "key",
      "partition", "timeout", "fromBeginning", "expectedCount", "expectedMessage",
      "expectedExists"]
  | delayConfig => some ["durationMs"]
  | node | nodeData | edge => none

/-- The members of an object are allowed. -/
def BundleObject.allows (object : BundleObject) (members : List String) : Prop :=
  ∀ allowed ∈ object.allowed, ∀ name ∈ members, name ∈ allowed

instance (object : BundleObject) (members : List String) : Decidable (object.allows members) :=
  inferInstanceAs (Decidable (∀ allowed ∈ object.allowed, _))

/-! ## The check of the untyped value -/

/-- The members of a value that is an object. -/
def asObject : Option Json → Option (List (String × Json))
  | some (.obj members) => some members
  | _ => none

/-- `asJSONArray`. -/
def asJSONArray : Option Json → List Json
  | some (.arr items) => items
  | _ => []

/-- A member of a map that may be nil. -/
def lookup (object : Option (List (String × Json))) (name : String) : Option Json :=
  object.bind (lastMember name)

/-- `rejectUnknown`. Of several unknown fields Go names any one. -/
def rejectUnknown (object : Option (List (String × Json))) (path : String)
    (allowed : List String) : Except String Unit :=
  match object.bind fun members => members.find? fun m => !allowed.contains m.1 with
  | some field => .error ("unknown workflow bundle field " ++ path ++ "/" ++ field.1)
  | none => .ok ()

/-- `rejectUnknown` with the allow-list of the object. -/
def rejectUnknownIn (object : BundleObject) (value : Option Json) (path : String) :
    Except String Unit :=
  rejectUnknown (asObject value) path (object.allowed.getD [])

/-- A loop over an array. -/
def rejectEach (check : String → Json → Except String Unit) (path : String) :
    Nat → List Json → Except String Unit
  | _, [] => .ok ()
  | index, item :: rest => do
    check (path ++ "/" ++ Text.decimal index) item
    rejectEach check path (index + 1) rest

/-- The loop over the expectations of a mock server. -/
def rejectUnknownExpectation (path : String) (value : Json) : Except String Unit := do
  let expectation := asObject (some value)
  rejectUnknownIn .expectation (some value) path
  rejectUnknownIn .request (lookup expectation "request") (path ++ "/request")
  rejectUnknownIn .response (lookup expectation "response") (path ++ "/response")

/-- The check of a service. -/
def rejectUnknownService (path : String) (value : Option Json) : Except String Unit := do
  let service := asObject value
  rejectUnknownIn .service value path
  rejectEach (fun path port => rejectUnknownIn .port (some port) path) (path ++ "/ports") 0
    (asJSONArray (lookup service "ports"))
  rejectEach (fun path env => rejectUnknownIn .env (some env) path) (path ++ "/env") 0
    (asJSONArray (lookup service "env"))
  rejectUnknownIn .waitStratergy (lookup service "waitStratergy") (path ++ "/waitStratergy")
  rejectEach (fun path script => rejectUnknownIn .initScript (some script) path)
    (path ++ "/initScripts") 0 (asJSONArray (lookup service "initScripts"))
  let mockServer := lookup service "mockServer"
  rejectUnknownIn .mockServer mockServer (path ++ "/mockServer")
  rejectEach rejectUnknownExpectation (path ++ "/mockServer/expectations") 0
    (asJSONArray (lookup (asObject mockServer) "expectations"))

/-- The loop over the nodes. -/
def rejectUnknownNode (path : String) (node : Json) : Except String Unit :=
  let data := lookup (asObject (some node)) "data"
  rejectUnknownService (path ++ "/data/service") (lookup (asObject data) "service")

/-- The loop over the edges. -/
def rejectUnknownEdge (path : String) (edge : Json) : Except String Unit :=
  rejectUnknownIn .edgeData (lookup (asObject (some edge)) "data") (path ++ "/data")

/-- The fields of a test that hold a configuration. Go goes through them in any order. -/
def configFields : List (String × BundleObject) :=
  [("databaseConfig", .databaseConfig), ("documentConfig", .documentConfig),
    ("httpConfig", .httpConfig), ("shellConfig", .shellConfig), ("cacheConfig", .cacheConfig),
    ("queueConfig", .queueConfig), ("delayConfig", .delayConfig)]

/-- One configuration of a test. -/
def rejectUnknownConfig (test : Option (List (String × Json))) (path : String)
    (config : String × BundleObject) : Except String Unit := do
  let value := lookup test config.1
  rejectUnknownIn config.2 value (path ++ "/" ++ config.1)
  if config.1 = "httpConfig" then
    rejectUnknownIn .expectedBody (lookup (asObject value) "expectedBody")
      (path ++ "/httpConfig/expectedBody")

/-- The loop over the tests. -/
def rejectUnknownTest (path : String) (value : Json) : Except String Unit := do
  let test := asObject (some value)
  rejectUnknownIn .test (some value) path
  rejectUnknownIn .retryPolicy (lookup test "retryPolicy") (path ++ "/retryPolicy")
  forM configFields (rejectUnknownConfig test path)

/-- The loop over the scenarios. -/
def rejectUnknownScenario (path : String) (value : Json) : Except String Unit := do
  rejectUnknownIn .scenario (some value) path
  rejectEach rejectUnknownTest (path ++ "/tests") 0
    (asJSONArray (lookup (asObject (some value)) "tests"))

/-- `json.Unmarshal` into a map. -/
def ensureMap : Json → Except String Unit
  | .obj _ | .null => .ok ()
  | _ => .error "invalid workflow bundle JSON"

/-- `rejectUnknownBundleFields`, after the text has been parsed. -/
def rejectUnknownBundleFields (root : Json) : Except String Unit := do
  ensureMap root
  rejectUnknownIn .root (some root) "/"
  let workflow := lookup (asObject (some root)) "workflow"
  rejectUnknownIn .workflow workflow "/workflow"
  rejectEach rejectUnknownNode "/workflow/nodes" 0
    (asJSONArray (lookup (asObject workflow) "nodes"))
  rejectEach rejectUnknownEdge "/workflow/edges" 0
    (asJSONArray (lookup (asObject workflow) "edges"))
  rejectEach rejectUnknownScenario "/scenarios" 0
    (asJSONArray (lookup (asObject (some root)) "scenarios"))

/-! ## The struct -/

/-- A struct without structs in it. -/
def leaf (object : BundleObject) (nullable : Bool) : Shape BundleObject :=
  .struct object nullable []

/-- The structs of `Bundle`. Fields that hold no struct are left out. -/
def expectationShape : Shape BundleObject :=
  .struct .expectation false
    [("request", leaf .request false), ("response", leaf .response false)]

def serviceShape : Shape BundleObject :=
  .struct .service false
    [("ports", .slice (leaf .port false)), ("env", .slice (leaf .env false)),
      ("waitStratergy", leaf .waitStratergy true),
      ("initScripts", .slice (leaf .initScript false)),
      ("mockServer", .struct .mockServer true [("expectations", .slice expectationShape)])]

def nodeShape : Shape BundleObject :=
  .struct .node false [("data", .struct .nodeData false [("service", serviceShape)])]

def edgeShape : Shape BundleObject :=
  .struct .edge false [("data", leaf .edgeData true)]

def testShape : Shape BundleObject :=
  .struct .test false
    [("retryPolicy", leaf .retryPolicy true), ("databaseConfig", leaf .databaseConfig true),
      ("documentConfig", leaf .documentConfig true),
      ("httpConfig", .struct .httpConfig true [("expectedBody", leaf .expectedBody true)]),
      ("shellConfig", leaf .shellConfig true), ("cacheConfig", leaf .cacheConfig true),
      ("queueConfig", leaf .queueConfig true), ("delayConfig", leaf .delayConfig true)]

def scenarioShape : Shape BundleObject :=
  .struct .scenario false [("tests", .slice testShape)]

def bundleShape : Shape BundleObject :=
  .struct .root false
    [("workflow", .struct .workflow false
        [("nodes", .slice nodeShape), ("edges", .slice edgeShape)]),
      ("scenarios", .slice scenarioShape)]

/-- The objects whose members end up in the bundle. -/
def decodedObjects (root : Json) : List (Decoded BundleObject) :=
  decodeInto [] true bundleShape root []

def BundleScenario.codec : Codec BundleScenario :=
  struct
    (cons "name" false string (·.name) <|
      cons "description" true string (·.description) <|
      cons "tests" false (slice ScenarioTestDefinition.codec) (·.tests) <|
      cons "testOrder" false (slice string) (·.testOrder) nil)
    {} (fun (name, description, tests, testOrder, _) => { name, description, tests, testOrder })
    (fun _ => rfl) (by decide +kernel)

/-- The description is read and not kept. -/
def BundleWorkflow.codec : Codec BundleWorkflow :=
  struct
    (cons "name" false string (·.name) <|
      cons "description" true string (fun _ => "") <|
      cons "nodes" false (slice FlowNode.codec) (·.nodes) <|
      cons "edges" false (nilSlice FlowEdge.codec) (·.edges) nil)
    {} (fun (name, _, nodes, edges, _) => { name, nodes, edges })
    (fun _ => rfl) (by decide +kernel)

def Bundle.codec : Codec Bundle :=
  struct
    (cons "schemaVersion" false int (·.schemaVersion) <|
      cons "kind" false string (·.kind) <|
      cons "workflow" false BundleWorkflow.codec (·.workflow) <|
      cons "scenarios" false (slice BundleScenario.codec) (·.scenarios) nil)
    { schemaVersion := 0, kind := "", workflow := {}, scenarios := [] }
    (fun (schemaVersion, kind, workflow, scenarios, _) =>
      { schemaVersion, kind, workflow, scenarios })
    (fun _ => rfl) (by decide +kernel)

/-- `Decode`. Its struct is the one that Go decodes when no member is repeated; of a repeated one
    the codec reads the last. -/
def decodeBundle (raw : String) : Except String Bundle := do
  match Json.parse raw with
  | none => .error "invalid workflow bundle JSON"
  | some root =>
    rejectUnknownBundleFields root
    match Bundle.codec.decode root with
    | none => .error "invalid workflow bundle JSON"
    | some bundle => bundle.validate

theorem decodeBundle_isOk {raw : String} {root : Json} (h : Json.parse raw = some root) :
    (decodeBundle raw).isOk =
      ((rejectUnknownBundleFields root).isOk &&
        (Bundle.codec.decode root).any fun bundle => bundle.validate.isOk) := by
  unfold decodeBundle
  rw [h]
  dsimp only
  cases hcheck : rejectUnknownBundleFields root with
  | error e => rfl
  | ok u => cases Bundle.codec.decode root <;> rfl

/-! ## What the check accepts -/

theorem rejectEach_ok {check : String → Json → Except String Unit} {path : String} {index : Nat}
    {items : List Json} (h : rejectEach check path index items = .ok ()) :
    ∀ item ∈ items, ∃ path, check path item = .ok () := by
  induction items generalizing index with
  | nil => exact fun item hitem => absurd hitem List.not_mem_nil
  | cons item rest ih =>
      obtain ⟨hfirst, hrest⟩ := then_eq_ok.1 h
      exact List.forall_mem_cons.2 ⟨⟨_, hfirst⟩, ih hrest⟩

theorem rejectUnknownIn_ok {object : BundleObject} {value : Option Json} {path : String}
    (h : rejectUnknownIn object value path = .ok ()) {members : List (String × Json)}
    (hmembers : asObject value = some members) : object.allows (members.map (·.1)) := by
  unfold rejectUnknownIn rejectUnknown at h
  rw [hmembers, Option.bind_some] at h
  cases hfind : members.find? fun m => !(object.allowed.getD []).contains m.1 with
  | some field =>
      rw [hfind] at h
      cases h
  | none =>
      intro allowed hallowed name hname
      obtain ⟨m, hm, rfl⟩ := List.mem_map.1 hname
      have hknown := List.find?_eq_none.1 hfind m hm
      rw [Option.mem_def.1 hallowed] at hknown
      simpa using hknown

/-! ## Its objects, shape by shape -/

/-- The check has accepted what is found under a shape. -/
abbrev Passes (shape : Shape BundleObject) (value : Option Json) : Prop :=
  ∀ v, value = some v → Accepts BundleObject.allows shape v

theorem passes_struct {object : BundleObject} {nullable : Bool}
    {fields : List (String × Shape BundleObject)} {value : Option Json}
    (hallowed : ∀ members, asObject value = some members → object.allows (members.map (·.1)))
    (hfields : ∀ f ∈ fields, Passes f.2 (lookup (asObject value) f.1)) :
    Passes (.struct object nullable fields) value := by
  rintro v rfl
  cases v with
  | obj members =>
      unfold Accepts
      refine ⟨hallowed members rfl, ?_⟩
      clear hallowed
      induction fields with
      | nil => trivial
      | cons f rest ih =>
          exact ⟨hfields f List.mem_cons_self, ih fun g hg => hfields g (List.mem_cons_of_mem _ hg)⟩
  | _ =>
      unfold Accepts
      trivial

theorem passes_slice {item : Shape BundleObject} {value : Option Json}
    (h : ∀ v ∈ asJSONArray value, Accepts BundleObject.allows item v) :
    Passes (.slice item) value := by
  rintro v rfl
  cases v with
  | arr items =>
      unfold Accepts
      exact h
  | _ =>
      unfold Accepts
      trivial

/-- A struct that has no structs in it. -/
theorem passes_leaf {object : BundleObject} {nullable : Bool} {value : Option Json} {path : String}
    (h : rejectUnknownIn object value path = .ok ()) : Passes (leaf object nullable) value :=
  passes_struct (fun _ hmembers => rejectUnknownIn_ok h hmembers)
    fun _ hf => absurd hf List.not_mem_nil

theorem passes_leaves {object : BundleObject} {items : List Json} {path : String}
    {value : Option Json} (hitems : asJSONArray value = items)
    (h : rejectEach (fun path v => rejectUnknownIn object (some v) path) path 0 items = .ok ()) :
    Passes (.slice (leaf object false)) value := by
  refine passes_slice fun v hv => ?_
  obtain ⟨path, hpath⟩ := rejectEach_ok h v (hitems ▸ hv)
  exact passes_leaf hpath v rfl

theorem expectation_passes {path : String} {v : Json}
    (h : rejectUnknownExpectation path v = .ok ()) : Passes expectationShape (some v) := by
  unfold rejectUnknownExpectation at h
  obtain ⟨hexpectation, h⟩ := then_eq_ok.1 h
  obtain ⟨hrequest, hresponse⟩ := then_eq_ok.1 h
  refine passes_struct (fun _ => rejectUnknownIn_ok hexpectation) ?_
  simp only [List.forall_mem_cons]
  exact ⟨passes_leaf hrequest, passes_leaf hresponse, by simp⟩

theorem service_passes {path : String} {value : Option Json}
    (h : rejectUnknownService path value = .ok ()) : Passes serviceShape value := by
  unfold rejectUnknownService at h
  obtain ⟨hservice, h⟩ := then_eq_ok.1 h
  obtain ⟨hports, h⟩ := then_eq_ok.1 h
  obtain ⟨henv, h⟩ := then_eq_ok.1 h
  obtain ⟨hwait, h⟩ := then_eq_ok.1 h
  obtain ⟨hscripts, h⟩ := then_eq_ok.1 h
  obtain ⟨hmock, hexpectations⟩ := then_eq_ok.1 h
  refine passes_struct (fun _ => rejectUnknownIn_ok hservice) ?_
  simp only [List.forall_mem_cons]
  refine ⟨passes_leaves rfl hports, passes_leaves rfl henv, passes_leaf hwait,
    passes_leaves rfl hscripts, ?_, by simp⟩
  refine passes_struct (fun _ => rejectUnknownIn_ok hmock) ?_
  simp only [List.forall_mem_cons]
  refine ⟨passes_slice fun v hv => ?_, by simp⟩
  obtain ⟨path, hpath⟩ := rejectEach_ok hexpectations v hv
  exact expectation_passes hpath v rfl

/-- An object without an allow-list may have any member. -/
theorem allows_any {object : BundleObject} (h : object.allowed = none) (members : List String) :
    object.allows members := by
  intro allowed hallowed
  rw [h] at hallowed
  cases hallowed

theorem node_passes {path : String} {v : Json} (h : rejectUnknownNode path v = .ok ()) :
    Passes nodeShape (some v) := by
  refine passes_struct (fun _ _ => allows_any rfl _) ?_
  simp only [List.forall_mem_cons]
  refine ⟨passes_struct (fun _ _ => allows_any rfl _) ?_, by simp⟩
  simp only [List.forall_mem_cons]
  exact ⟨service_passes h, by simp⟩

theorem edge_passes {path : String} {v : Json} (h : rejectUnknownEdge path v = .ok ()) :
    Passes edgeShape (some v) := by
  refine passes_struct (fun _ _ => allows_any rfl _) ?_
  simp only [List.forall_mem_cons]
  exact ⟨passes_leaf h, by simp⟩

theorem test_passes {path : String} {v : Json} (h : rejectUnknownTest path v = .ok ()) :
    Passes testShape (some v) := by
  unfold rejectUnknownTest at h
  obtain ⟨htest, h⟩ := then_eq_ok.1 h
  obtain ⟨hretry, hconfigs⟩ := then_eq_ok.1 h
  have hconfig : ∀ c ∈ configFields,
      rejectUnknownIn c.2 (lookup (asObject (some v)) c.1) (path ++ "/" ++ c.1) = .ok () :=
    fun c hc => (then_eq_ok.1 (forM_eq_ok.1 hconfigs c hc)).1
  have hbody := (then_eq_ok.1
    (forM_eq_ok.1 hconfigs ("httpConfig", .httpConfig) (by decide))).2
  simp only [configFields, List.forall_mem_cons] at hconfig
  obtain ⟨hdatabase, hdocument, hhttp, hshell, hcache, hqueue, hdelay, -⟩ := hconfig
  refine passes_struct (fun _ => rejectUnknownIn_ok htest) ?_
  simp only [List.forall_mem_cons]
  refine ⟨passes_leaf hretry, passes_leaf hdatabase, passes_leaf hdocument, ?_, passes_leaf hshell,
    passes_leaf hcache, passes_leaf hqueue, passes_leaf hdelay, by simp⟩
  refine passes_struct (fun _ => rejectUnknownIn_ok hhttp) ?_
  simp only [List.forall_mem_cons]
  exact ⟨passes_leaf hbody, by simp⟩

theorem scenario_passes {path : String} {v : Json} (h : rejectUnknownScenario path v = .ok ()) :
    Passes scenarioShape (some v) := by
  unfold rejectUnknownScenario at h
  obtain ⟨hscenario, htests⟩ := then_eq_ok.1 h
  refine passes_struct (fun _ => rejectUnknownIn_ok hscenario) ?_
  simp only [List.forall_mem_cons]
  refine ⟨passes_slice fun w hw => ?_, by simp⟩
  obtain ⟨path, hpath⟩ := rejectEach_ok htests w hw
  exact test_passes hpath w rfl

theorem bundle_passes {root : Json} (h : rejectUnknownBundleFields root = .ok ()) :
    Passes bundleShape (some root) := by
  unfold rejectUnknownBundleFields at h
  obtain ⟨-, h⟩ := then_eq_ok.1 h
  obtain ⟨hroot, h⟩ := then_eq_ok.1 h
  obtain ⟨hworkflow, h⟩ := then_eq_ok.1 h
  obtain ⟨hnodes, h⟩ := then_eq_ok.1 h
  obtain ⟨hedges, hscenarios⟩ := then_eq_ok.1 h
  refine passes_struct (fun _ => rejectUnknownIn_ok hroot) ?_
  simp only [List.forall_mem_cons]
  refine ⟨passes_struct (fun _ => rejectUnknownIn_ok hworkflow) ?_,
    passes_slice fun v hv => ?_, by simp⟩
  · simp only [List.forall_mem_cons]
    refine ⟨passes_slice fun v hv => ?_, passes_slice fun v hv => ?_, by simp⟩
    · obtain ⟨path, hpath⟩ := rejectEach_ok hnodes v hv
      exact node_passes hpath v rfl
    · obtain ⟨path, hpath⟩ := rejectEach_ok hedges v hv
      exact edge_passes hpath v rfl
  · obtain ⟨path, hpath⟩ := rejectEach_ok hscenarios v hv
    exact scenario_passes hpath v rfl

/-- **Every object of an accepted bundle that was seen by the check has allowed members only.** -/
theorem decodedObjects_seen {root : Json} (h : rejectUnknownBundleFields root = .ok ()) :
    SeenAllowed BundleObject.allows (decodedObjects root) :=
  decodeInto_seen [] true bundleShape root [] (fun _ => bundle_passes h root rfl)
    fun _ hd => absurd hd List.not_mem_nil

/-! ## Strict decoding -/

/-- The objects of a kind that end up in the bundle have allowed members only. -/
def StrictFor (object : BundleObject) (root : Json) : Prop :=
  ∀ d ∈ decodedObjects root, d.kind = object → object.allows d.members

/-- **Strict decoding** of an accepted text comes down to the objects that the check has not seen:
    those on whose way a member is spelled in another case than its field, or is followed by another
    member of its name. -/
theorem decode_strict_iff (object : BundleObject) (root : Json)
    (h : rejectUnknownBundleFields root = .ok ()) :
    StrictFor object root ↔
      ∀ d ∈ decodedObjects root, d.kind = object → d.seen = false → object.allows d.members := by
  constructor
  · exact fun hstrict d hd hkind _ => hstrict d hd hkind
  · intro hunseen d hd hkind
    cases hseen : d.seen with
    | true => exact hkind ▸ decodedObjects_seen h d hd hseen
    | false => exact hunseen d hd hkind hseen

/-- A bundle of one service, whose node holds its data under the given name. -/
def bundleText (data : String) (service : List (String × Json)) : Json :=
  .obj
    [("schemaVersion", .int 2), ("kind", .str bundleKind),
      ("workflow", .obj
        [("name", .str "shop"), ("edges", .arr []),
          ("nodes", .arr
            [.obj
              [("id", .str "n1"),
                (data, .obj [("label", .str "API"), ("service", .obj service)])]])]),
      ("scenarios", .arr
        [.obj
          [("name", .str "smoke"), ("testOrder", .arr [.str "t1"]),
            ("tests", .arr
              [.obj
                [("id", .str "t1"), ("name", .str "pause"), ("type", .str "delay"),
                  ("targetServices", .arr [.str "api"]),
                  ("delayConfig", .obj [("durationMs", .int 5)])]])]])]

/-- A service, with its wait strategy under the name that the field does not have. -/
def misnamedService : List (String × Json) :=
  [("type", .str "generic"), ("image", .str "api"), ("waitStrategy", .obj [("type", .str "port")])]

theorem decode_strict_iff_shop :
    StrictFor .service (bundleText "data" (misnamedService.take 2)) :=
  (decode_strict_iff .service _ (by decide +kernel)).2 (by decide +kernel)

/-- Under `data` the misnamed member is refused; under `Data` it is accepted and dropped. -/
theorem misnamedService_accepted :
    ¬ ∀ (raw : String) (bundle : Bundle) (root : Json), decodeBundle raw = .ok bundle →
      Json.parse raw = some root → ∀ object, StrictFor object root := by
  intro hall
  have hparse := Json.parse_marshal (bundleText "Data" misnamedService) (by decide +kernel)
  have haccepted : (decodeBundle (Json.marshal (bundleText "Data" misnamedService))).isOk
      = true := by
    rw [decodeBundle_isOk hparse]
    decide +kernel
  cases hdecode : decodeBundle (Json.marshal (bundleText "Data" misnamedService)) with
  | error e =>
      rw [hdecode] at haccepted
      cases haccepted
  | ok bundle =>
      have hstrict := hall _ bundle _ hdecode hparse .service
      unfold StrictFor at hstrict
      exact absurd hstrict (by decide +kernel)

example : (rejectUnknownBundleFields (bundleText "data" misnamedService)).isOk = false := by
  decide +kernel

end TokyoTester
