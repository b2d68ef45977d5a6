import TokyoTester.Bundle.References
import TokyoTester.Provider.Leaks

set_option autoImplicit false

/-! # Ports and their spellings

A port is a text wherever it occurs: `validPort` reads a number from it, while the duplicates of
`validateServiceRuntime`, the map of `buildRuntime` and the lookup of `Endpoint` compare the texts.
A number has more than one text that is accepted. -/

namespace TokyoTester

theorem validPort_iff {value : String} :
    validPort value = true ↔ ∃ n, portNumber value = some n ∧ 1 ≤ n ∧ n ≤ 65535 := by
  unfold validPort portNumber
  cases Text.atoi (Text.trimSpace (Text.trimSuffix value "/tcp")) <;> simp

/-- A port has no colon in it. -/
theorem colon_not_mem {value : String} (h : validPort value = true) : ':' ∉ value.toList := by
  obtain ⟨n, hn, -⟩ := validPort_iff.1 h
  intro hcolon
  have hbase : ':' ∈ (Text.trimSuffix value "/tcp").toList :=
    Text.mem_trimSuffix hcolon (by decide)
  rcases Text.mem_of_atoi hn (Text.mem_trimSpace hbase (by decide)) with h | h | h
  all_goals exact absurd h (by decide)

/-! ## What validation says about ports -/

/-- The container ports that a node lists. -/
def FlowNode.containerPorts (node : FlowNode) : List String :=
  node.data.service.ports.map (·.containerPort)

/-- What `validatePorts` has found: the container ports are valid and new as texts. -/
structure PortsValid (seen : List String) (ports : List PortMapping) : Prop where
  container : ∀ port ∈ ports, validPort port.containerPort = true
  host : ∀ port ∈ ports, port.hostPort = "" ∨ validPort port.hostPort = true
  nodup : (ports.map (·.containerPort)).Nodup
  new : ∀ port ∈ ports, port.containerPort ∉ seen

theorem validatePorts_ok {service : String} {ports : List PortMapping} :
    ∀ {seen : List String}, validatePorts service seen ports = .ok () → PortsValid seen ports := by
  induction ports with
  | nil =>
      intro seen _
      exact ⟨by simp, by simp, List.nodup_nil, by simp⟩
  | cons port ports ih =>
      intro seen h
      unfold validatePorts at h
      simp only [ensure_bind_eq_ok] at h
      obtain ⟨hvalid, hnew, hhost, h⟩ := h
      have rest := ih h
      refine ⟨?_, ?_, ?_, ?_⟩
      · exact List.forall_mem_cons.2 ⟨hvalid, rest.container⟩
      · exact List.forall_mem_cons.2 ⟨by simpa using hhost, rest.host⟩
      · rw [List.map_cons, List.nodup_cons]
        refine ⟨fun hmem => ?_, rest.nodup⟩
        obtain ⟨other, hother, heq⟩ := List.mem_map.1 hmem
        exact rest.new other hother (heq ▸ List.mem_cons_self)
      · refine List.forall_mem_cons.2 ⟨by simpa using hnew, fun other hother hseen => ?_⟩
        exact rest.new other hother (List.mem_cons_of_mem _ hseen)

/-- What the provider of an accepted node relies on. -/
structure NodeChecked (node : FlowNode) : Prop where
  image : node.data.service.type = "generic" → node.data.service.image ≠ ""
  ports : PortsValid [] node.data.service.ports
  waitStratergy : ∀ strategy, node.data.service.waitStratergy = some strategy →
    strategy.enabled = true → strategy.type ∈ ["log", "port", "exec"] ∧ strategy.target ≠ ""

theorem ne_empty_of_nonBlank {s : String} (h : nonBlank s = true) : s ≠ "" := by
  rintro rfl
  exact absurd h (by decide)

theorem validateServiceRuntime_ok {node : FlowNode} (h : validateServiceRuntime node = .ok ()) :
    PortsValid [] node.data.service.ports ∧
      ∀ strategy, node.data.service.waitStratergy = some strategy → strategy.enabled = true →
        strategy.type ∈ ["log", "port", "exec"] ∧ strategy.target ≠ "" := by
  unfold validateServiceRuntime at h
  dsimp only at h
  obtain ⟨u, hports, h⟩ := Transaction.bind_eq_ok.1 h
  obtain ⟨u', -, h⟩ := Transaction.bind_eq_ok.1 h
  refine ⟨validatePorts_ok hports, fun strategy hstrategy henabled => ?_⟩
  rw [hstrategy] at h
  dsimp only at h
  rw [if_pos henabled] at h
  obtain ⟨u'', hwait, -⟩ := Transaction.bind_eq_ok.1 h
  unfold validateWaitStrategy at hwait
  simp only [ensure_bind_eq_ok] at hwait
  exact ⟨by simpa using hwait.1, ne_empty_of_nonBlank hwait.2.1⟩

theorem validateNodes_checked {nodes : List FlowNode} :
    ∀ {ids : List String} {names : List (String × String)},
      validateNodes ids names nodes = .ok () → ∀ node ∈ nodes, NodeChecked node := by
  induction nodes with
  | nil => simp
  | cons node nodes ih =>
      intro ids names h
      unfold validateNodes at h
      simp only [ensure_bind_eq_ok] at h
      obtain ⟨-, -, -, -, h⟩ := h
      cases hfind : names.find? fun s => s.1 = sanitizeName node.data.label with
      | some found =>
          rw [hfind] at h
          cases h
      | none =>
      rw [hfind] at h
      simp only [ensure_bind_eq_ok] at h
      obtain ⟨-, -, himage, h⟩ := h
      obtain ⟨u, hruntime, h⟩ := Transaction.bind_eq_ok.1 h
      obtain ⟨hports, hwait⟩ := validateServiceRuntime_ok hruntime
      refine List.forall_mem_cons.2 ⟨⟨fun htype => ?_, hports, hwait⟩, ih h⟩
      exact ne_empty_of_nonBlank (by simpa [htype] using himage)

/-- What `validateTests` has found about each test. -/
theorem validateTests_checked {scenario : BundleScenario} {services : List String}
    {tests : List ScenarioTestDefinition} :
    ∀ {ids names : List String}, validateTests scenario services ids names tests = .ok () →
      ∀ test ∈ tests, test.targetServices ≠ [] ∧
        validateScenarioTestConfig test services = .ok () := by
  induction tests with
  | nil => simp
  | cons test tests ih =>
      intro ids names h
      unfold validateTests at h
      simp only [ensure_bind_eq_ok] at h
      obtain ⟨-, -, -, -, -, htargets, h⟩ := h
      obtain ⟨-, -, h⟩ := Transaction.bind_eq_ok.1 h
      obtain ⟨-, -, h⟩ := Transaction.bind_eq_ok.1 h
      obtain ⟨u, hconfig, h⟩ := Transaction.bind_eq_ok.1 h
      exact List.forall_mem_cons.2 ⟨⟨by simpa using htargets, hconfig⟩, ih h⟩

/-- The nodes of an accepted bundle, and the tests of its scenarios. -/
theorem Bundle.validate_checked {b b' : Bundle} (h : b.validate = .ok b') :
    (∀ node ∈ b'.workflow.nodes, NodeChecked node) ∧
      ∀ scenario ∈ b'.scenarios, ∀ test ∈ scenario.tests, test.targetServices ≠ [] ∧
        validateScenarioTestConfig test (b'.serviceGraph.services.map (·.name)) = .ok () := by
  obtain ⟨-, hscenarios⟩ := Bundle.validate_ok h
  obtain ⟨b₁, -, h⟩ := Transaction.bind_eq_ok.1 h
  obtain ⟨u, hcheck, h⟩ := Transaction.bind_eq_ok.1 h
  obtain rfl := Except.ok.inj h
  unfold Bundle.check at hcheck
  simp only [ensure_bind_eq_ok] at hcheck
  obtain ⟨-, -, -, hcheck⟩ := hcheck
  obtain ⟨u', hgraph, -⟩ := Transaction.bind_eq_ok.1 hcheck
  unfold validateWorkflowGraph at hgraph
  rw [ensure_bind_eq_ok] at hgraph
  obtain ⟨u'', hnodes, -⟩ := Transaction.bind_eq_ok.1 hgraph.2
  refine ⟨validateNodes_checked hnodes, fun scenario hscenario => ?_⟩
  have hvalid := hscenarios scenario hscenario
  unfold validateScenario at hvalid
  simp only [ensure_bind_eq_ok] at hvalid
  obtain ⟨-, -, hvalid⟩ := hvalid
  obtain ⟨u₃, htests, -⟩ := Transaction.bind_eq_ok.1 hvalid
  exact validateTests_checked htests

namespace Provider

/-! ## Provisioning -/

theorem containerPort_mapping {hostPort port : String} (hhost : ':' ∉ hostPort.toList)
    (hport : ':' ∉ port.toList) : containerPort (hostPort ++ ":" ++ port) = some port := by
  have hlist : (hostPort ++ ":" ++ port).toList = hostPort.toList ++ ':' :: port.toList := by
    simp
  unfold containerPort
  rw [hlist, Text.splitAt_append hhost, Text.splitAt_of_not_mem hport]
  exact congrArg some String.ofList_toList

/-- The mappings are in the form that `Provision` expects. -/
def WellFormed (mappings : List String) : Prop := ∀ m ∈ mappings, (containerPort m).isSome

theorem exposedPorts_ok {mappings : List String} (h : WellFormed mappings) :
    exposedPorts mappings = .ok (mappings.filterMap containerPort) := by
  induction mappings with
  | nil => rfl
  | cons m rest ih =>
      obtain ⟨port, hport⟩ := Option.isSome_iff_exists.1 (h m List.mem_cons_self)
      have hrest := ih fun m hm => h m (List.mem_cons_of_mem _ hm)
      unfold exposedPorts
      rw [hport, hrest, List.filterMap_cons_some hport]
      rfl

/-- Every port of the map has a host port. -/
def Bound (mapped : GoMap String) : Prop :=
  ∀ port hostPort, mapped.get? port = some hostPort → hostPort ≠ ""

theorem Bound.set {mapped : GoMap String} (h : Bound mapped) {port hostPort : String}
    (hne : hostPort ≠ "") : Bound (GoMap.set mapped port hostPort) := by
  intro p q hq
  rw [get?_set] at hq
  split_ifs at hq
  · exact Option.some.inj hq ▸ hne
  · exact h p q hq

/-- The call succeeds, with a text. -/
def Serves (_ : ContainerOp) (answer : Answer) (_ : Docker) : Prop :=
  ∃ text, text ≠ "" ∧ answer = .done text 0

/-- A provider that runs alone. -/
abbrev solo (guard : ContainerOp → Answer → Docker → Prop) :
    Setting ContainerOp ContainerOp.Reply Docker Answer :=
  Setting.sequential Docker.handle guard

section Provision

variable {env : Environment} {cfg : ServiceConfig} {container : Container}

/-- However the calls end, the ports of the map are those of the mappings. -/
theorem mapPorts_keys (mappings : List String) : ∀ (mapped : GoMap String) (d : Docker),
    (solo fun _ _ _ => True).Safe (fun r _ => ∀ m, r = .ok m → ∀ port, port ∈ m.keys ↔
      port ∈ mappings.filterMap containerPort ∨ port ∈ mapped.keys)
      (mapPorts container mappings mapped) d := by
  induction mappings with
  | nil =>
      intro mapped d
      refine Setting.Safe.sequential_pure ?_
      rintro _ ⟨⟩ port
      simp
  | cons mapping rest ih =>
      intro mapped d
      unfold mapPorts
      cases hport : containerPort mapping with
      | none =>
          rw [List.filterMap_cons_none hport]
          exact ih mapped d
      | some port =>
          rw [List.filterMap_cons_some hport]
          refine Setting.Safe.bind (Setting.Safe.sequential_true _ d) fun r d _ => ?_
          cases r with
          | error err => exact Setting.Safe.sequential_pure fun m hm => by cases hm
          | ok hostPort =>
              refine (ih (GoMap.set mapped port hostPort) d).mono fun r _ hr m hm q => ?_
              rw [hr m hm q, mem_keys_set, List.mem_cons]
              tauto

/-- When every call succeeds, so does the loop. -/
theorem mapPorts_serves (mappings : List String) : ∀ (mapped : GoMap String) (d : Docker),
    Bound mapped → (solo Serves).Safe (fun r _ => ∃ m, r = .ok m ∧ Bound m)
      (mapPorts container mappings mapped) d := by
  induction mappings with
  | nil => exact fun mapped d h => Setting.Safe.sequential_pure ⟨mapped, rfl, h⟩
  | cons mapping rest ih =>
      intro mapped d h
      unfold mapPorts
      cases containerPort mapping with
      | none => exact ih mapped d h
      | some port =>
          have hcall : (solo Serves).Safe (fun r _ => ∃ text, text ≠ "" ∧ r = .ok text)
              (call (.mappedPort container port)) d := by
            refine Setting.Safe.sequential_perform fun e he => ?_
            obtain ⟨text, htext, rfl⟩ := he
            exact ⟨text, htext, rfl⟩
          refine Setting.Safe.bind hcall fun r d hr => ?_
          obtain ⟨text, htext, rfl⟩ := hr
          exact ih _ d (h.set htext)

/-- The ports of the runtime are those of the mappings. -/
def MapsPorts (cfg : ServiceConfig) (runtime : ServiceRuntime) : Prop :=
  ∀ port, port ∈ runtime.mappedPorts.keys ↔ port ∈ cfg.ports.filterMap containerPort

theorem buildRuntime_keys (d : Docker) :
    (solo fun _ _ _ => True).Safe (fun r _ => ∀ runtime, r = .ok runtime → MapsPorts cfg runtime)
      (buildRuntime env cfg container) d := by
  unfold buildRuntime
  refine Setting.Safe.bind (Setting.Safe.sequential_true _ d) fun r d _ => ?_
  cases r with
  | error err => exact Setting.Safe.sequential_pure fun m hm => by cases hm
  | ok host =>
      refine Setting.Safe.bind (mapPorts_keys cfg.ports .empty d) fun r d hr => ?_
      cases r with
      | error err => exact Setting.Safe.sequential_pure fun m hm => by cases hm
      | ok mapped =>
          refine Setting.Safe.sequential_pure ?_
          rintro _ ⟨⟩ port
          rw [hr mapped rfl port]
          exact or_iff_left (List.not_mem_nil)

theorem buildRuntime_serves (d : Docker) :
    (solo Serves).Safe (fun r _ => ∃ runtime, r = .ok runtime ∧ Bound runtime.mappedPorts)
      (buildRuntime env cfg container) d := by
  have hcall : (solo Serves).Safe (fun r _ => ∃ host, r = .ok host) (call (.host container)) d := by
    refine Setting.Safe.sequential_perform fun e he => ?_
    obtain ⟨text, -, rfl⟩ := he
    exact ⟨text, rfl⟩
  unfold buildRuntime
  refine Setting.Safe.bind hcall fun r d hr => ?_
  obtain ⟨host, rfl⟩ := hr
  have hempty : Bound GoMap.empty := fun port hostPort h => by cases h
  refine Setting.Safe.bind (mapPorts_serves cfg.ports .empty d hempty) fun r d hr => ?_
  obtain ⟨mapped, rfl, hbound⟩ := hr
  exact Setting.Safe.sequential_pure ⟨_, rfl, hbound⟩

/-- The init scripts succeed. -/
theorem runInitScripts_serves (scripts : List String) : ∀ (i : ℕ) (d : Docker),
    (solo Serves).Safe (fun r _ => r = none) (runInitScripts container i scripts) d := by
  induction scripts with
  | nil => exact fun i d => Setting.Safe.sequential_pure rfl
  | cons script scripts ih =>
      intro i d
      have hcall : (solo Serves).Safe (fun r _ => ∃ text, r = .ok (0, text))
          (call (.exec container ["sh", "-c", script])) d := by
        refine Setting.Safe.sequential_perform fun e he => ?_
        obtain ⟨text, -, rfl⟩ := he
        exact ⟨text, rfl⟩
      unfold runInitScripts
      refine Setting.Safe.bind hcall fun r d hr => ?_
      obtain ⟨text, rfl⟩ := hr
      exact ih (i + 1) d

theorem genericContainer_serves (req : ContainerRequest) (d : Docker) :
    (solo Serves).Safe (fun r _ => ∃ container, r = .started container)
      (call (.genericContainer req)) d := by
  refine Setting.Safe.sequential_perform fun e he => ?_
  obtain ⟨text, -, rfl⟩ := he
  exact ⟨_, rfl⟩

theorem createContainerWithFallback_serves (req : ContainerRequest) (d : Docker) :
    (solo Serves).Safe (fun r _ => ∃ container, r = .ok container)
      (createContainerWithFallback env cfg req) d := by
  have horiginal : (solo Serves).Safe (fun r _ => ∃ container, r = .ok container)
      (createOriginal req) d := by
    unfold createOriginal
    refine Setting.Safe.bind (genericContainer_serves req d) fun r d hr => ?_
    obtain ⟨container, rfl⟩ := hr
    exact Setting.Safe.sequential_pure ⟨container, rfl⟩
  unfold createContainerWithFallback
  cases cfg.registry with
  | none => exact horiginal
  | some registry =>
      dsimp only
      split_ifs
      · exact horiginal
      · refine Setting.Safe.bind (genericContainer_serves _ d) fun r d hr => ?_
        obtain ⟨container, rfl⟩ := hr
        exact Setting.Safe.sequential_pure ⟨container, rfl⟩

/-- **What `Provision` of the generic provider maps**: the container ports of the mappings. -/
theorem provision_keys (d : Docker) :
    (solo fun _ _ _ => True).Safe (fun r _ => ∀ container runtime, r = .ready container runtime →
      MapsPorts cfg runtime) (provision env cfg) d := by
  unfold provision
  split_ifs
  · exact Setting.Safe.sequential_pure fun _ _ h => by cases h
  cases containerRequest cfg with
  | error err => exact Setting.Safe.sequential_pure fun _ _ h => by cases h
  | ok req =>
      refine Setting.Safe.bind (Setting.Safe.sequential_true _ d) fun r d _ => ?_
      cases r with
      | error err => exact Setting.Safe.sequential_pure fun _ _ h => by cases h
      | ok container =>
          refine Setting.Safe.bind (Setting.Safe.sequential_true _ d) fun r d _ => ?_
          cases r with
          | some err => exact Setting.Safe.sequential_pure fun _ _ h => by cases h
          | none =>
              refine Setting.Safe.bind (buildRuntime_keys d) fun r d hr => ?_
              cases r with
              | error err => exact Setting.Safe.sequential_pure fun _ _ h => by cases h
              | ok runtime =>
                  refine Setting.Safe.sequential_pure ?_
                  rintro _ _ ⟨⟩
                  exact hr runtime rfl

/-- When every call succeeds, a service with an image and a sound request is provisioned. -/
theorem provision_serves {req : ContainerRequest} (himage : cfg.image ≠ "")
    (hreq : containerRequest cfg = .ok req) (d : Docker) :
    (solo Serves).Safe (fun r _ => ∃ container runtime, r = .ready container runtime ∧
      Bound runtime.mappedPorts) (provision env cfg) d := by
  unfold provision
  rw [if_neg himage, hreq]
  refine Setting.Safe.bind (createContainerWithFallback_serves req d) fun r d hr => ?_
  obtain ⟨container, rfl⟩ := hr
  refine Setting.Safe.bind (runInitScripts_serves _ 0 d) fun r d hr => ?_
  obtain rfl := hr
  refine Setting.Safe.bind (buildRuntime_serves d) fun r d hr => ?_
  obtain ⟨runtime, rfl, hbound⟩ := hr
  exact Setting.Safe.sequential_pure ⟨container, runtime, rfl, hbound⟩

end Provision

/-- The ports that a provider of `pkg/provider/predefined` maps: its own ones, whatever the bundle
    lists. -/
def predefinedPorts : String → List String
  | "postgres" => ["5432"]
  | "mysql" => ["3306"]
  | "mariadb" => ["3306"]
  | "redis" => ["6379"]
  | "memcached" => ["11211"]
  | "mongodb" => ["27017"]
  | "rabbitmq" => ["5672", "15672"]
  | "kafka" => ["9093"]
  | "nginx" => ["80", "443"]
  | "mockserver" => ["1080"]
  | _ => []

/-- What the provider for the type of a service may return. -/
inductive Provisions (env : Environment) (cfg : ServiceConfig) (runtime : ServiceRuntime) : Prop
  | generic (type : cfg.type = "generic") (answers : List Answer) (d d' : Docker)
      (container : Container)
      (ready : (provision env cfg).run Docker.handle answers d
        = some (.ready container runtime, d'))
  | predefined (type : cfg.type ≠ "generic")
      (ports : ∀ port, port ∈ runtime.mappedPorts.keys ↔ port ∈ predefinedPorts cfg.type)

theorem endpoint_ok_iff {lib : Libraries} {runtime : ServiceRuntime} {port : String}
    (h : Bound runtime.mappedPorts) :
    (∃ address, runtime.endpoint lib port = .ok address) ↔ port ∈ runtime.mappedPorts.keys := by
  rw [← not_iff_not, ← GoMap.get?_eq_none]
  unfold ServiceRuntime.endpoint
  cases hport : runtime.mappedPorts.get? port with
  | none => simp
  | some hostPort => simp [h port hostPort hport]

end Provider

open Provider

/-! ## The ports of a bundle -/

/-- The configuration of a node's service, with the environment that the interpolation has left. -/
def Bundle.serviceConfig (b : Bundle) (node : FlowNode) (received : GoMap String) :
    ServiceConfig :=
  { translateService (buildServiceAliasMap b.workflow.nodes) b.serviceGraph.serviceDeps node with
    env := received }

/-- The configuration that the executor of a test reads. -/
def Bundle.builtConfig (b : Bundle) (scenario : BundleScenario) (test : ScenarioTestDefinition) :
    Config :=
  buildTestConfig test (test.targetServices.head?.getD "")
    (expandScenarioServiceSubset b.serviceGraph scenario.tests)

/-- The node lists a port with the number that the text has. -/
def FlowNode.Exposes (node : FlowNode) (port : String) : Prop :=
  ∃ listed ∈ node.containerPorts, portNumber listed = portNumber port

/-- Ports have one identity: the numbers that a service lists differ, and whatever provisioning
    returns has an endpoint for the port of an HTTP test when the service of the test lists it. -/
structure Bundle.PortsAgree (env : Environment) (b : Bundle) : Prop where
  listed : ∀ node ∈ b.workflow.nodes, (node.containerPorts.map portNumber).Nodup
  found : ∀ scenario ∈ b.scenarios, ∀ test ∈ scenario.tests, test.type = "http" →
    ∀ node ∈ b.workflow.nodes, node.serviceName = builtService (b.builtConfig scenario test) →
      ∀ port, (b.builtConfig scenario test).value "port" = .string port → node.Exposes port →
        ∀ received runtime, Provisions env (b.serviceConfig node received) runtime →
          Bound runtime.mappedPorts → ∃ address, runtime.endpoint env.lib port = .ok address

/-- The texts of the ports that are mapped for a node. -/
def FlowNode.mappedPortNames (node : FlowNode) : List String :=
  if node.data.service.type = "generic" then node.containerPorts
  else predefinedPorts node.data.service.type

/-- Each number has one spelling: a service lists no two texts of it, and an HTTP test writes the
    port of its service, when that lists it, as it is mapped. -/
structure Bundle.OneSpelling (b : Bundle) : Prop where
  listed : ∀ node ∈ b.workflow.nodes, ∀ p ∈ node.containerPorts, ∀ q ∈ node.containerPorts,
    portNumber p = portNumber q → p = q
  tested : ∀ scenario ∈ b.scenarios, ∀ test ∈ scenario.tests, test.type = "http" →
    ∀ cfg, test.httpConfig = some cfg → ∀ node ∈ b.workflow.nodes,
      test.targetServices.head? = some node.serviceName → node.Exposes cfg.port →
        cfg.port ∈ node.mappedPortNames

section Bundle

variable {env : Environment} {b : Bundle} {node : FlowNode} {received : GoMap String}
  {runtime : ServiceRuntime}

/-- The mappings of an accepted node. -/
theorem filterMap_containerPort (h : NodeChecked node) :
    WellFormed (b.serviceConfig node received).ports ∧
      (b.serviceConfig node received).ports.filterMap containerPort = node.containerPorts := by
  have hmapping : ∀ port ∈ node.data.service.ports,
      containerPort (port.hostPort ++ ":" ++ port.containerPort) = some port.containerPort := by
    intro port hport
    refine containerPort_mapping ?_ (colon_not_mem (h.ports.container port hport))
    rcases h.ports.host port hport with hhost | hhost
    · rw [hhost]
      exact List.not_mem_nil
    · exact colon_not_mem hhost
  constructor
  · intro m hm
    obtain ⟨port, hport, rfl⟩ := List.mem_map.1 hm
    rw [hmapping port hport]
    rfl
  · show (node.data.service.ports.map _).filterMap containerPort = _
    rw [List.filterMap_map, FlowNode.containerPorts, ← List.filterMap_eq_map]
    exact List.filterMap_congr hmapping

/-- The request for an accepted node is sound. -/
theorem containerRequest_ok (b : Bundle) (received : GoMap String) (h : NodeChecked node) :
    ∃ req, containerRequest (b.serviceConfig node received) = .ok req := by
  have hwait : ∃ waiting, waitingFor (b.serviceConfig node received) = .ok waiting := by
    unfold waitingFor
    split_ifs with htype
    · exact ⟨_, rfl⟩
    cases hstrategy : node.data.service.waitStratergy with
    | none =>
        simp [Bundle.serviceConfig, translateService, hstrategy] at htype
    | some strategy =>
        by_cases henabled : strategy.enabled = true
        · obtain ⟨hknown, htarget⟩ := h.waitStratergy strategy hstrategy henabled
          simp only [Bundle.serviceConfig, translateService, hstrategy, henabled, if_true]
          simp only [List.mem_cons, List.not_mem_nil, or_false] at hknown
          rcases hknown with hknown | hknown | hknown
          all_goals exact ⟨_, by rw [createWaitStratergy, hknown]; simp [htarget]; rfl⟩
        · simp [Bundle.serviceConfig, translateService, hstrategy, henabled] at htype
  obtain ⟨waiting, hwaiting⟩ := hwait
  unfold containerRequest
  rw [exposedPorts_ok (filterMap_containerPort h).1, hwaiting]
  exact ⟨_, rfl⟩

/-- What is mapped once a service is provisioned. -/
theorem Provider.Provisions.mem_keys (h : NodeChecked node)
    (hruntime : Provisions env (b.serviceConfig node received) runtime) (port : String) :
    port ∈ runtime.mappedPorts.keys ↔ port ∈ node.mappedPortNames := by
  unfold FlowNode.mappedPortNames
  cases hruntime with
  | generic type answers d d' container ready =>
      rw [if_pos (show node.data.service.type = "generic" from type)]
      have hkeys := (provision_keys d).run (fun _ _ _ _ => trivial)
        ready container runtime rfl port
      rw [hkeys, (filterMap_containerPort h).2]
  | predefined type ports =>
      rw [if_neg (show node.data.service.type ≠ "generic" from type)]
      exact ports port

/-- An accepted node can be provisioned. -/
theorem exists_provisions (env : Environment) (b : Bundle) (h : NodeChecked node) :
    ∃ runtime, Provisions env (b.serviceConfig node .empty) runtime ∧
      Bound runtime.mappedPorts := by
  by_cases htype : node.data.service.type = "generic"
  · obtain ⟨req, hreq⟩ := containerRequest_ok b .empty h
    obtain ⟨n, r, d', hrun⟩ := Program.exists_run Docker.handle (.done "1" 0)
      (provision env (b.serviceConfig node .empty)) {}
    have hserves : ∀ op, ∀ e ∈ List.replicate n (Answer.done "1" 0), ∀ d, Serves op e d := by
      intro op e he d
      exact ⟨"1", by decide, List.eq_of_mem_replicate he⟩
    obtain ⟨container, runtime, rfl, hbound⟩ :=
      (provision_serves (h.image htype) hreq {}).run hserves hrun
    exact ⟨runtime, .generic htype _ _ d' container hrun, hbound⟩
  · refine ⟨⟨"", "", GoMap.ofList ((predefinedPorts node.data.service.type).map (·, "1")), .empty⟩,
      .predefined htype fun port => ?_, fun port hostPort hport => ?_⟩
    · rw [GoMap.mem_keys_ofList, List.map_map]
      simp [Bundle.serviceConfig, translateService]
    · obtain ⟨own, -, heq⟩ := List.mem_map.1 (GoMap.mem_ofList (Docker.mem_entries_iff.2 hport))
      obtain rfl := (Prod.mk.inj heq).2
      decide

/-- The service and the port that the executor of an accepted HTTP test reads. -/
theorem builtConfig_http {b₀ : Bundle} (h : b₀.validate = .ok b) {scenario : BundleScenario}
    (hscenario : scenario ∈ b.scenarios) {test : ScenarioTestDefinition}
    (htest : test ∈ scenario.tests) (htype : test.type = "http") :
    ∃ cfg, test.httpConfig = some cfg ∧
      test.targetServices.head? = some (builtService (b.builtConfig scenario test)) ∧
      (b.builtConfig scenario test).value "port" = .string cfg.port := by
  obtain ⟨htargets, hconfig⟩ := (Bundle.validate_checked h).2 scenario hscenario test htest
  obtain ⟨cfg, hcfg⟩ : ∃ cfg, test.httpConfig = some cfg := by
    cases acceptedTest_of_validate hconfig with
    | http cfg type config => exact ⟨cfg, config⟩
    | database _ type | document _ type | shell _ type | cache _ type | queue _ type
    | delay _ type => exact absurd (htype.symm.trans type) (by decide)
  obtain ⟨target, rest, hrest⟩ := List.exists_cons_of_ne_nil htargets
  have hmem : target ∈ scenario.targets :=
    List.mem_flatMap.2 ⟨test, htest, hrest ▸ List.mem_cons_self⟩
  have hrequired : target ∈ expandScenarioServiceSubset b.serviceGraph scenario.tests :=
    (mem_expand_iff (Bundle.validate_ok h).1).2 ⟨target, hmem, .refl⟩
  have hservice : (b.builtConfig scenario test).value "service" = .string target := by
    have htarget : targetService target
        (expandScenarioServiceSubset b.serviceGraph scenario.tests) = target :=
      if_pos (List.contains_iff_mem.2 hrequired)
    unfold Bundle.builtConfig
    rw [hrest, List.head?_cons, Option.getD_some]
    simp only [buildTestConfig, htype, value_ofList, htarget]
    rfl
  refine ⟨cfg, hcfg, ?_, ?_⟩
  · rw [hrest, builtService, hservice]
    rfl
  · unfold Bundle.builtConfig
    simp only [buildTestConfig, htype, hcfg, value_ofList]
    rfl

/-- **One number, one spelling.** In an accepted bundle the ports that a service lists are different
    ports, and the HTTP tests find those that it lists, exactly when each number is spelled in one
    way: as the service lists it and as it is mapped. -/
theorem ports_agree_iff (env : Environment) {b₀ : Bundle} (h : b₀.validate = .ok b) :
    b.PortsAgree env ↔ b.OneSpelling := by
  obtain ⟨hnodes, -⟩ := Bundle.validate_checked h
  constructor
  · intro hagree
    constructor
    · intro node hnode p hp q hq
      exact List.inj_on_of_nodup_map (hagree.listed node hnode) hp hq
    · intro scenario hscenario test htest htype cfg hcfg node hnode htarget hexposes
      obtain ⟨cfg', hcfg', hservice, hport⟩ := builtConfig_http h hscenario htest htype
      obtain rfl := Option.some.inj (hcfg.symm.trans hcfg')
      obtain ⟨runtime, hruntime, hbound⟩ := exists_provisions env b (hnodes node hnode)
      have hname := Option.some.inj (htarget.symm.trans hservice)
      have hfound := hagree.found scenario hscenario test htest htype node hnode hname cfg.port
        hport hexposes .empty runtime hruntime hbound
      exact (hruntime.mem_keys (hnodes node hnode) _).1 ((endpoint_ok_iff hbound).1 hfound)
  · intro hspelling
    constructor
    · intro node hnode
      exact (hnodes node hnode).ports.nodup.map_on (hspelling.listed node hnode)
    · intro scenario hscenario test htest htype node hnode hname port hport hexposes received
        runtime hruntime hbound
      obtain ⟨cfg, hcfg, hservice, hport'⟩ := builtConfig_http h hscenario htest htype
      obtain rfl := ConfigValue.string.inj (hport.symm.trans hport')
      refine (endpoint_ok_iff hbound).2 ((hruntime.mem_keys (hnodes node hnode) _).2 ?_)
      exact hspelling.tested scenario hscenario test htest htype cfg hcfg node hnode
        (hname ▸ hservice) hexposes

end Bundle

/-! ## A suffix too many -/

/-- A service with one port and an HTTP test of it. -/
def portBundle (listed tested : String) : Bundle :=
  { schemaVersion := 2
    kind := "cots.workflow-bundle"
    workflow :=
      { name := "shop"
        nodes :=
          [{ id := "n1", data := { label := "api", service :=
              { type := "generic", image := "api", ports := [{ containerPort := listed }] } } }]
        edges := some [] }
    scenarios :=
      [{ name := "smoke"
         tests :=
          [{ id := "t1", name := "list", type := "http", targetServices := ["api"]
             httpConfig := some { method := "GET", path := "/", port := tested } }]
         testOrder := ["t1"] }] }

theorem ports_agree_iff_plain :
    (portBundle "8080" "8080").validate = .ok (portBundle "8080" "8080") ∧
      ((portBundle "8080" "8080").PortsAgree Docker.plainEnvironment ↔
        (portBundle "8080" "8080").OneSpelling) := by
  have hvalid : (portBundle "8080" "8080").validate = .ok (portBundle "8080" "8080") :=
    validate_eq_self rfl (by decide +kernel)
  exact ⟨hvalid, ports_agree_iff Docker.plainEnvironment hvalid⟩

/-- **A port that is exposed and not found**: the service lists it with its protocol, the test
    writes the number. -/
theorem exposed_port_not_found :
    (portBundle "8080/tcp" "8080").validate = .ok (portBundle "8080/tcp" "8080") ∧
      ¬(portBundle "8080/tcp" "8080").PortsAgree Docker.plainEnvironment := by
  have hvalid : (portBundle "8080/tcp" "8080").validate = .ok (portBundle "8080/tcp" "8080") :=
    validate_eq_self rfl (by decide +kernel)
  refine ⟨hvalid, fun hagree => ?_⟩
  obtain ⟨cfg, hcfg, hservice, hport⟩ := builtConfig_http hvalid List.mem_cons_self
    List.mem_cons_self rfl
  obtain rfl := Option.some.inj hcfg
  have hnode := (Bundle.validate_checked hvalid).1 _ List.mem_cons_self
  obtain ⟨runtime, hruntime, hbound⟩ := exists_provisions Docker.plainEnvironment
    (portBundle "8080/tcp" "8080") hnode
  have hfound := hagree.found _ List.mem_cons_self _ List.mem_cons_self rfl _ List.mem_cons_self
    (Option.some.inj hservice) "8080" hport ⟨"8080/tcp", List.mem_cons_self, by decide⟩ .empty
    runtime hruntime hbound
  -- the only text in the map is the one with the protocol
  have hmapped := (hruntime.mem_keys hnode _).1 ((endpoint_ok_iff hbound).1 hfound)
  exact absurd hmapped (by decide)

end TokyoTester
