import TokyoTester.Bundle.Definition
import TokyoTester.Library.Text

set_option autoImplicit false

/-! # The service graph of a bundle (`pkg/workflowbundle/bundle.go`)

Service names, the readiness graph of the edges, cycle detection, references to other services
and the translation of nodes into service configurations. Recursive visits of the graph run on a
depth budget of one more than the number of names in it. -/

namespace TokyoTester

open Codec Codec.Fields

/-! ## Names -/

/-- The loop of `SanitizeName`: other characters become underscores, and runs of underscores
    collapse. -/
def sanitizeChars : Bool → List Char → List Char
  | _, [] => []
  | lastUnderscore, c :: cs =>
    let r := if ('a' ≤ c ∧ c ≤ 'z') ∨ ('0' ≤ c ∧ c ≤ '9') ∨ c = '_' then c else '_'
    if r = '_' then
      if lastUnderscore then sanitizeChars true cs else '_' :: sanitizeChars true cs
    else r :: sanitizeChars false cs

/-- `SanitizeName`. -/
def sanitizeName (label : String) : String :=
  let sanitized := (Text.toLower (Text.trimSpace label)).toList.map fun c =>
    if c = ' ' ∨ c = '-' then '_' else c
  String.ofList (Text.trim (· = '_') (sanitizeChars false sanitized))

def appendUnique (values : List String) (next : String) : List String :=
  if values.contains next then values else values ++ [next]

/-- The bundle package's `firstNonEmpty`: the first value that is not blank. -/
def firstNonBlank (values : List String) : String :=
  (values.find? fun v => !Text.blank v).getD ""

/-- A text without its surrounding blanks is nonempty. -/
def nonBlank (s : String) : Bool := !Text.blank s

/-! ## The readiness graph -/

/-- A dependency graph: names with their prerequisites. -/
abbrev ServiceDeps := GoMap (List String)

def prerequisites (graph : ServiceDeps) (name : String) : List String := (graph.get? name).getD []

/-- An assignment to a map. -/
def GoMap.set {α : Type} (m : GoMap α) (k : String) (v : α) : GoMap α :=
  ⟨GoMap.insertEntry k v m.entries, GoMap.sorted_insertEntry m.sorted⟩

/-- One edge of `buildServiceDependencies`. -/
def addDependency (nodes : List FlowNode) (graph : ServiceDeps) (edge : FlowEdge) : ServiceDeps :=
  -- a later node with the same id replaces an earlier one in the node map
  let node? (id : String) : Option FlowNode := nodes.reverse.find? fun n => n.id = id
  match node? edge.source, node? edge.target, edge.data with
  | some source, some target, some data =>
    let sourceName := sanitizeName source.data.label
    let targetName := sanitizeName target.data.label
    if data.readiness = "source_requires_target" then
      GoMap.set graph sourceName (appendUnique (prerequisites graph sourceName) targetName)
    else if data.readiness = "target_requires_source" then
      GoMap.set graph targetName (appendUnique (prerequisites graph targetName) sourceName)
    else graph
  | _, _, _ => graph

/-- `buildServiceDependencies`. -/
def buildServiceDependencies (nodes : List FlowNode) (edges : List FlowEdge) : ServiceDeps :=
  edges.foldl (addDependency nodes)
    (GoMap.ofList (nodes.map fun n => (sanitizeName n.data.label, [])))

/-- Names that occur in a graph. -/
def graphSize (graph : ServiceDeps) : Nat :=
  (graph.entries.map fun e => 1 + e.2.length).sum

/-- The sets that the search for cycles keeps, and what it has found. -/
structure CycleSearch where
  visited : List String := []
  visiting : List String := []
  cycles : List String := []

mutual

/-- The closure `dfs` of `detectCycles`. -/
def cycleVisit (graph : ServiceDeps) : Nat → String → List String → CycleSearch → CycleSearch
  | 0, _, _, st => st
  | fuel + 1, node, path, st =>
    if st.visiting.contains node then
      match path.idxOf? node with
      | some cycleStart =>
        { st with cycles := st.cycles ++ [Text.join "->" (path.drop cycleStart ++ [node])] }
      | none => st
    else if st.visited.contains node then st
    else
      let st := cycleVisitAll graph fuel (prerequisites graph node) (path ++ [node])
        { st with visiting := node :: st.visiting }
      { st with visiting := st.visiting.erase node, visited := node :: st.visited }

def cycleVisitAll (graph : ServiceDeps) :
    Nat → List String → List String → CycleSearch → CycleSearch
  | 0, _, _, st => st
  | _ + 1, [], _, st => st
  | fuel + 1, neighbor :: rest, path, st =>
    cycleVisitAll graph fuel rest path (cycleVisit graph fuel neighbor path st)

end

/-- `detectCycles`. Go visits the keys of the map in any order; only the order of the cycles
    depends on it. -/
def detectCycles (graph : ServiceDeps) : List String :=
  let fuel := 2 * (graphSize graph + 1) * (graphSize graph + 1)
  (graph.entries.foldl (fun st e => cycleVisit graph fuel e.1 [] st) {}).cycles

/-- The closure `visit` of `validateRuntimeReferenceReadiness`: the names reached from the
    prerequisites of a name. -/
def reachFrom (graph : ServiceDeps) : Nat → List String → List String → List String
  | 0, _, seen => seen
  | _, [], seen => seen
  | fuel + 1, dependency :: rest, seen =>
    if seen.contains dependency then reachFrom graph fuel rest seen
    else
      reachFrom graph fuel rest
        (reachFrom graph fuel (prerequisites graph dependency) (dependency :: seen))

def reachable (graph : ServiceDeps) (name : String) : List String :=
  reachFrom graph (2 * (graphSize graph + 1) * (graphSize graph + 1)) (prerequisites graph name) []

/-! ## References to services -/

/-- `buildServiceAliasMap`. -/
def buildServiceAliasMap (nodes : List FlowNode) : GoMap String :=
  GoMap.ofList (nodes.flatMap fun node =>
    let sanitized := sanitizeName (firstNonBlank [node.data.label, node.id])
    let candidates := [node.data.label, node.id, sanitized, Text.trimSpace node.data.label,
      Text.trimSpace node.id]
    (candidates.filter (· ≠ "")).flatMap fun candidate =>
      [(candidate, sanitized), (Text.toLower candidate, sanitized)])

/-- The first of the keys that has a nonempty entry. -/
def firstAlias (aliases : GoMap String) (keys : List String) : Option String :=
  (keys.map fun k => (aliases.get? k).getD "").find? (· ≠ "")

/-- `normalizeServiceReferences`. -/
def normalizeServiceReferences (value : String) (aliases : GoMap String) : String :=
  String.ofList <| Text.replaceReferences (fun body =>
    match Text.splitAt '.' body with
    | token :: field :: fields =>
      let serviceToken := String.ofList token
      let normalized := (firstAlias aliases [serviceToken, Text.trimSpace serviceToken,
        Text.toLower serviceToken]).getD (sanitizeName serviceToken)
      ['$', '\x7b'] ++ normalized.toList ++ ['.'] ++
        (Text.join "." ((field :: fields).map String.ofList)).toList ++ ['\x7d']
    | _ => ['$', '\x7b'] ++ body ++ ['\x7d']) value.length value.toList

/-- `validateRuntimeReferenceReadiness` for one node: every reference to another service is to one
    that is ready first. -/
def checkReferences (aliases : GoMap String) (graph : ServiceDeps) (node : FlowNode) :
    Except String Unit :=
  let serviceName := sanitizeName node.data.label
  let ready := reachable graph serviceName
  let values := node.data.service.command ++ node.data.service.env.map (·.value) ++
    node.data.service.initScripts.map (·.script)
  let referenced := values.flatMap fun value =>
    (Text.references value.length value.toList).filterMap fun body =>
      match Text.splitAt '.' body with
      | token :: _ :: _ =>
        let token := Text.trimSpace (String.ofList token)
        firstAlias aliases [token, Text.toLower token]
      | _ => none
  match referenced.find? fun name => name ≠ serviceName && !ready.contains name with
  | some name => .error ("service " ++ Text.quote serviceName ++
      " references runtime values from " ++ Text.quote name ++ " without a readiness prerequisite")
  | none => .ok ()

/-- `validateRuntimeReferenceReadiness`. -/
def validateRuntimeReferenceReadiness (nodes : List FlowNode) (graph : ServiceDeps) :
    Except String Unit :=
  nodes.forM (checkReferences (buildServiceAliasMap nodes) graph)

/-! ## Service configurations (`pkg/config/types.go`) -/

/-- `WaitStratergyConfig`. -/
structure WaitStratergyConfig where
  type : String := ""
  target : String := ""
  timeout : Int64 := 0
deriving DecidableEq, Repr, Inhabited

def WaitStratergyConfig.codec : Codec WaitStratergyConfig :=
  struct
    (cons "type" false string (·.type) <|
      cons "target" true string (·.target) <|
      cons "timeout" true int (·.timeout) nil)
    {} (fun (type, target, timeout, _) => { type, target, timeout })
    (fun _ => rfl) (by decide +kernel)

theorem mockServerReplyTags_nodup :
    (["status_code", "headers", "body"].map Json.foldName).Nodup := by
  decide +kernel

/-- `config.MockServerExpectationReply`: as in the bundle but for one tag. -/
def mockServerReplyCodec : Codec MockServerExpectationResponse :=
  struct
    (cons "status_code" false int (·.statusCode) <|
      cons "headers" true (map string) (·.headers) <|
      cons "body" true string (·.body) nil)
    {} (fun (statusCode, headers, body, _) => { statusCode, headers, body })
    (fun _ => rfl) mockServerReplyTags_nodup

theorem mockServerExpectationTags_nodup :
    (["id", "request", "response"].map Json.foldName).Nodup := by
  decide +kernel

/-- `config.MockServerExpectation`. -/
def mockServerExpectationCodec : Codec MockServerExpectation :=
  struct
    (cons "id" false string (·.id) <|
      cons "request" false MockServerExpectationRequest.codec (·.request) <|
      cons "response" false mockServerReplyCodec (·.response) nil)
    {} (fun (id, request, response, _) => { id, request, response })
    (fun _ => rfl) mockServerExpectationTags_nodup

/-- `config.ServiceConfig`. The resource limits, which the runner sets and never prints, are left
    out. -/
structure ServiceConfig where
  id : String := ""
  name : String := ""
  type : String := ""
  image : String := ""
  command : List String := []
  env : GoMap String := .empty
  ports : List String := []
  dependsOn : List String := []
  waitStratergy : WaitStratergyConfig := {}
  initScripts : List String := []
  mockServerExpectations : List MockServerExpectation := []
  registry : Option RegistryConfig := none
deriving Inhabited

theorem ServiceConfig.tags_nodup :
    (["id", "name", "type", "image", "command", "env", "ports", "depends_on", "wait_stratergy",
      "init_scripts", "mockserver_expectations", "registry"].map Json.foldName).Nodup := by
  decide +kernel

def ServiceConfig.codec : Codec ServiceConfig :=
  struct
    (cons "id" true string (·.id) <|
      cons "name" false string (·.name) <|
      cons "type" false string (·.type) <|
      cons "image" false string (·.image) <|
      cons "command" true (slice string) (·.command) <|
      cons "env" true (map string) (·.env) <|
      cons "ports" true (slice string) (·.ports) <|
      cons "depends_on" true (slice string) (·.dependsOn) <|
      cons "wait_stratergy" false WaitStratergyConfig.codec (·.waitStratergy) <|
      cons "init_scripts" true (slice string) (·.initScripts) <|
      cons "mockserver_expectations" true (slice mockServerExpectationCodec)
        (·.mockServerExpectations) <|
      cons "registry" false (pointer RegistryConfig.codec RegistryConfig.isNull_codec) (·.registry) nil)
    {} (fun (id, name, type, image, command, env, ports, dependsOn, waitStratergy, initScripts,
        mockServerExpectations, registry, _) =>
      { id, name, type, image, command, env, ports, dependsOn, waitStratergy, initScripts
        mockServerExpectations, registry })
    (fun _ => rfl) ServiceConfig.tags_nodup

/-- A new element moves down while it is before its neighbour (the prefix is kept reversed). -/
def insertBack {α : Type} (before : α → α → Bool) (x : α) : List α → List α
  | [] => [x]
  | y :: ys => if before x y then y :: insertBack before x ys else x :: y :: ys

/-- `slices.SortFunc`, as Go runs it on short slices. -/
def sortFunc {α : Type} (before : α → α → Bool) (xs : List α) : List α :=
  (xs.foldl (fun acc x => insertBack before x acc) []).reverse

/-- One node of `translateServices`. -/
def translateService (aliases : GoMap String) (serviceDeps : ServiceDeps) (node : FlowNode) :
    ServiceConfig :=
  let service := node.data.service
  let serviceName := sanitizeName node.data.label
  { id := node.id
    name := serviceName
    type := service.type
    image := service.image
    registry := service.registry
    command := service.command.map fun c => normalizeServiceReferences c aliases
    env := GoMap.ofList ((service.env.filter fun e => nonBlank e.key).map fun e =>
      (Text.trimSpace e.key, normalizeServiceReferences e.value aliases))
    ports := service.ports.map fun p => p.hostPort ++ ":" ++ p.containerPort
    waitStratergy := match service.waitStratergy with
      | some ws => if ws.enabled then ⟨ws.type, ws.target, ws.timeout⟩ else {}
      | none => {}
    -- the comparison subtracts, and the difference of two orders wraps around
    initScripts := (sortFunc (fun left right => left.order - right.order < 0)
      service.initScripts).map fun s => normalizeServiceReferences s.script aliases
    mockServerExpectations := match service.mockServer with
      | some mockServer => mockServer.expectations.getD []
      | none => []
    dependsOn := prerequisites serviceDeps serviceName }

/-- `translateServices`. -/
def translateServices (nodes : List FlowNode) (serviceDeps : ServiceDeps) : List ServiceConfig :=
  sortFunc (fun left right => left.name < right.name)
    (nodes.map (translateService (buildServiceAliasMap nodes) serviceDeps))

/-- `workflowServiceGraph`. -/
structure WorkflowServiceGraph where
  serviceDeps : ServiceDeps
  services : List ServiceConfig

/-- `translateWorkflowGraphToServiceGraph`. -/
def translateWorkflowGraphToServiceGraph (nodes : List FlowNode) (edges : List FlowEdge) :
    WorkflowServiceGraph :=
  let serviceDeps := buildServiceDependencies nodes edges
  { serviceDeps, services := translateServices nodes serviceDeps }

/-- `expandScenarioServiceSubset`: the target services and everything they require. -/
def expandScenarioServiceSubset (graph : WorkflowServiceGraph)
    (tests : List ScenarioTestDefinition) : List String :=
  reachFrom graph.serviceDeps
    (2 * (graphSize graph.serviceDeps + 1) * (graphSize graph.serviceDeps + 1) +
      (tests.flatMap (·.targetServices)).length)
    (tests.flatMap (·.targetServices)) []

end TokyoTester
