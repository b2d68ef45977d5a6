import TokyoTester.Bundle.Levels
import TokyoTester.Bundle.Translation
import TokyoTester.Library.Sorting

set_option autoImplicit false

/-! # Validated bundles can be run

What `Validate` accepts, `TranslateScenario` translates: each scenario into the services that its
tests target and all that these require, in the order of their names, and into its tests in their
order; and the orchestrator can sort these services into levels. -/

namespace TokyoTester

open Graph Transaction

/-! ## What passed a check -/

theorem ensure_eq_ok {ok : Bool} {message : String} {u : Unit} :
    ensure ok message = .ok u ↔ ok = true := by
  unfold ensure
  cases ok <;> simp

theorem ensure_bind_eq_ok {α : Type} {ok : Bool} {message : String} {f : Unit → Except String α}
    {r : α} : (ensure ok message >>= f) = .ok r ↔ ok = true ∧ f () = .ok r := by
  unfold ensure
  cases ok <;> simp [bind, Except.bind]

/-- What `validateNodes` has found about the nodes: their ids and service names are new and differ
    from one another. -/
structure NodesValid (knownIds knownNames : List String) (nodes : List FlowNode) : Prop where
  ids : (nodes.map (·.id)).Nodup
  names : (nodes.map FlowNode.serviceName).Nodup
  newIds : ∀ node ∈ nodes, node.id ∉ knownIds
  newNames : ∀ node ∈ nodes, node.serviceName ∉ knownNames
  named : ∀ node ∈ nodes, node.serviceName ≠ ""

theorem validateNodes_ok {nodes : List FlowNode} :
    ∀ {ids : List String} {names : List (String × String)},
      validateNodes ids names nodes = .ok () → NodesValid ids (names.map (·.1)) nodes := by
  induction nodes with
  | nil =>
      intro ids names _
      exact ⟨List.nodup_nil, List.nodup_nil, by simp, by simp, by simp⟩
  | cons node nodes ih =>
      intro ids names h
      unfold validateNodes at h
      simp only [ensure_bind_eq_ok] at h
      obtain ⟨-, hid, -, hname, h⟩ := h
      cases hfind : names.find? fun s => s.1 = sanitizeName node.data.label with
      | some found =>
          rw [hfind] at h
          cases h
      | none =>
      rw [hfind] at h
      simp only [ensure_bind_eq_ok] at h
      obtain ⟨-, -, -, h⟩ := h
      obtain ⟨-, -, h⟩ := bind_eq_ok.1 h
      have rest := ih h
      -- the accumulators hold the ids and names of the nodes before this one
      have hid' : node.id ∉ ids := by simpa using hid
      have hname' : node.serviceName ∉ names.map (·.1) := by
        intro hmem
        obtain ⟨e, he, hkey⟩ := List.mem_map.1 hmem
        have hnew := List.find?_eq_none.1 hfind e he
        exact absurd hkey (by simpa [FlowNode.serviceName] using hnew)
      refine ⟨?_, ?_, ?_, ?_, ?_⟩
      · rw [List.map_cons, List.nodup_cons]
        refine ⟨?_, rest.ids⟩
        rintro hmem
        obtain ⟨node', hnode', heq⟩ := List.mem_map.1 hmem
        exact rest.newIds node' hnode' (by simp [heq])
      · rw [List.map_cons, List.nodup_cons]
        refine ⟨?_, rest.names⟩
        rintro hmem
        obtain ⟨node', hnode', heq⟩ := List.mem_map.1 hmem
        refine rest.newNames node' hnode' ?_
        rw [heq]
        exact List.mem_cons_self
      · intro node' hnode'
        rcases List.mem_cons.1 hnode' with rfl | hnode'
        · exact hid'
        · exact fun hmem => rest.newIds node' hnode' (by simp [hmem])
      · intro node' hnode'
        rcases List.mem_cons.1 hnode' with rfl | hnode'
        · exact hname'
        · intro hmem
          refine rest.newNames node' hnode' ?_
          rw [List.map_cons]
          exact List.mem_cons_of_mem _ hmem
      · intro node' hnode'
        rcases List.mem_cons.1 hnode' with rfl | hnode'
        · simpa [FlowNode.serviceName] using hname
        · exact rest.named node' hnode'

/-- The nodes and edges of a bundle that was accepted. -/
structure GraphValid (nodes : List FlowNode) (edges : List FlowEdge) : Prop where
  valid : NodesValid [] [] nodes
  cycles : detectCycles (buildServiceDependencies nodes edges) = []
  references : validateRuntimeReferenceReadiness nodes (buildServiceDependencies nodes edges)
    = .ok ()

theorem validateWorkflowGraph_ok {nodes : List FlowNode} {edges : List FlowEdge}
    (h : validateWorkflowGraph nodes edges = .ok ()) : GraphValid nodes edges := by
  unfold validateWorkflowGraph at h
  rw [ensure_bind_eq_ok] at h
  obtain ⟨u, hnodes, h⟩ := bind_eq_ok.1 h.2
  obtain ⟨-, -, h⟩ := bind_eq_ok.1 h
  rw [ensure_bind_eq_ok] at h
  exact ⟨validateNodes_ok hnodes, by simpa using h.1, h.2⟩

/-! ## Scenarios that passed -/

theorem validateTargets_ok {test : ScenarioTestDefinition} {services names : List String} :
    ∀ {seen : List String}, validateTargets test services seen names = .ok () →
      names ⊆ services := by
  induction names with
  | nil => simp
  | cons name names ih =>
      intro seen h
      unfold validateTargets at h
      simp only [ensure_bind_eq_ok] at h
      obtain ⟨-, -, hmem, h⟩ := h
      exact List.cons_subset.2 ⟨by simpa using hmem, ih h⟩

/-- What `validateTests` has found: the ids are new and differ, the targets are services. -/
structure TestsValid (services knownIds : List String) (tests : List ScenarioTestDefinition) :
    Prop where
  ids : (tests.map (·.id)).Nodup
  newIds : ∀ test ∈ tests, test.id ∉ knownIds
  targets : ∀ test ∈ tests, test.targetServices ⊆ services

theorem validateTests_ok {scenario : BundleScenario} {services : List String}
    {tests : List ScenarioTestDefinition} :
    ∀ {ids names : List String}, validateTests scenario services ids names tests = .ok () →
      TestsValid services ids tests := by
  induction tests with
  | nil =>
      intro ids names _
      exact ⟨List.nodup_nil, by simp, by simp⟩
  | cons test tests ih =>
      intro ids names h
      unfold validateTests at h
      simp only [ensure_bind_eq_ok] at h
      obtain ⟨-, hid, -, -, -, -, h⟩ := h
      obtain ⟨u, htargets, h⟩ := bind_eq_ok.1 h
      obtain ⟨-, -, h⟩ := bind_eq_ok.1 h
      obtain ⟨-, -, h⟩ := bind_eq_ok.1 h
      have rest := ih h
      refine ⟨?_, ?_, ?_⟩
      · rw [List.map_cons, List.nodup_cons]
        refine ⟨?_, rest.ids⟩
        rintro hmem
        obtain ⟨test', htest', heq⟩ := List.mem_map.1 hmem
        exact rest.newIds test' htest' (by simp [heq])
      · intro test' htest'
        rcases List.mem_cons.1 htest' with rfl | htest'
        · simpa using hid
        · exact fun hmem => rest.newIds test' htest' (by simp [hmem])
      · intro test' htest'
        rcases List.mem_cons.1 htest' with rfl | htest'
        · exact validateTargets_ok htargets
        · exact rest.targets test' htest'

theorem validateTestOrder_ok {scenario : BundleScenario} {order : List String} :
    ∀ {seen : List String}, validateTestOrder scenario seen order = .ok () →
      order.Nodup ∧ (∀ id ∈ order, id ∉ seen) ∧
        ∀ id ∈ order, scenarioHasTest scenario.tests id = true := by
  induction order with
  | nil => simp
  | cons id order ih =>
      intro seen h
      unfold validateTestOrder at h
      simp only [ensure_bind_eq_ok] at h
      obtain ⟨hnew, htest, h⟩ := h
      obtain ⟨hnodup, hseen, hknown⟩ := ih h
      refine ⟨List.nodup_cons.2 ⟨fun hmem => hseen id hmem (by simp), hnodup⟩, ?_, ?_⟩
      · intro id' hid'
        rcases List.mem_cons.1 hid' with rfl | hid'
        · simpa using hnew
        · exact fun hmem => hseen id' hid' (by simp [hmem])
      · intro id' hid'
        rcases List.mem_cons.1 hid' with rfl | hid'
        · exact htest
        · exact hknown id' hid'

/-- A scenario that passed. -/
structure ScenarioValid (services : List String) (scenario : BundleScenario) : Prop where
  tests : TestsValid services [] scenario.tests
  length : scenario.testOrder.length = scenario.tests.length
  order : scenario.testOrder.Nodup
  known : ∀ id ∈ scenario.testOrder, scenarioHasTest scenario.tests id = true

theorem validateScenario_ok {graph : WorkflowServiceGraph} {scenario : BundleScenario}
    {index : Nat} (h : validateScenario graph scenario index = .ok ()) :
    ScenarioValid (graph.services.map (·.name)) scenario := by
  unfold validateScenario at h
  simp only [ensure_bind_eq_ok] at h
  obtain ⟨-, -, h⟩ := h
  obtain ⟨u, htests, h⟩ := bind_eq_ok.1 h
  simp only [ensure_bind_eq_ok] at h
  obtain ⟨-, hlength, horder⟩ := h
  obtain ⟨hnodup, -, hknown⟩ := validateTestOrder_ok horder
  exact ⟨validateTests_ok htests, by simpa using hlength, hnodup, hknown⟩

/-- The number of a scenario only occurs in errors. -/
theorem validateScenario_index {graph : WorkflowServiceGraph} {scenario : BundleScenario}
    {index index' : Nat} (h : validateScenario graph scenario index = .ok ()) :
    validateScenario graph scenario index' = .ok () := by
  unfold validateScenario at h ⊢
  rw [ensure_bind_eq_ok] at h ⊢
  exact h

theorem validateScenarios_ok {graph : WorkflowServiceGraph} {scenarios : List BundleScenario} :
    ∀ {index : Nat} {names : List String}, validateScenarios graph index names scenarios = .ok () →
      ∀ scenario ∈ scenarios, validateScenario graph scenario 0 = .ok () := by
  induction scenarios with
  | nil => simp
  | cons scenario scenarios ih =>
      intro index names h
      unfold validateScenarios at h
      rw [ensure_bind_eq_ok] at h
      obtain ⟨u, hfirst, hrest⟩ := bind_eq_ok.1 h.2
      intro scenario' hscenario'
      rcases List.mem_cons.1 hscenario' with rfl | hscenario'
      · exact validateScenario_index hfirst
      · exact ih hrest scenario' hscenario'

/-- The service graph of a bundle. -/
abbrev Bundle.serviceGraph (b : Bundle) : WorkflowServiceGraph :=
  translateWorkflowGraphToServiceGraph b.workflow.nodes (b.workflow.edges.getD [])

/-- What an accepted bundle has. -/
theorem Bundle.validate_ok {b b' : Bundle} (h : b.validate = .ok b') :
    GraphValid b'.workflow.nodes (b'.workflow.edges.getD []) ∧
      ∀ scenario ∈ b'.scenarios, validateScenario b'.serviceGraph scenario 0 = .ok () := by
  obtain ⟨b₁, -, h⟩ := bind_eq_ok.1 h
  obtain ⟨u, hcheck, h⟩ := bind_eq_ok.1 h
  obtain rfl := Except.ok.inj h
  unfold Bundle.check at hcheck
  simp only [ensure_bind_eq_ok] at hcheck
  obtain ⟨-, -, -, hcheck⟩ := hcheck
  obtain ⟨u', hgraph, hcheck⟩ := bind_eq_ok.1 hcheck
  rw [ensure_bind_eq_ok] at hcheck
  exact ⟨validateWorkflowGraph_ok hgraph, validateScenarios_ok hcheck.2⟩

/-! ## Sorting -/

section Sorting

variable {α : Type}

theorem insertBack_perm (before : α → α → Bool) (x : α) (xs : List α) :
    (insertBack before x xs).Perm (x :: xs) := by
  induction xs with
  | nil => exact List.Perm.refl _
  | cons y ys ih =>
      unfold insertBack
      split_ifs
      · exact (ih.cons y).trans (List.Perm.swap x y ys)
      · exact List.Perm.refl _

theorem sortFunc_perm (before : α → α → Bool) (xs : List α) : (sortFunc before xs).Perm xs := by
  have hfold : ∀ (ys acc : List α),
      (ys.foldl (fun acc x => insertBack before x acc) acc).Perm (ys ++ acc) := by
    intro ys
    induction ys with
    | nil => exact fun _ => List.Perm.refl _
    | cons y ys ih =>
        intro acc
        refine (ih _).trans (((insertBack_perm before y acc).append_left ys).trans ?_)
        exact List.perm_middle
  have := hfold xs []
  rw [List.append_nil] at this
  exact (List.reverse_perm _).trans this

/-- Sorting by a strict weak ordering: the elements sorted so far stand in falling order. -/
theorem insertBack_sorted {before : α → α → Bool} {xs : List α}
    (hweak : Sorting.StrictWeak (fun x y => before x y = true) xs) {x : α} (hx : x ∈ xs)
    {acc : List α} (hsub : acc ⊆ xs) (hacc : acc.Pairwise fun x y => ¬before x y = true) :
    (insertBack before x acc).Pairwise fun x y => ¬before x y = true := by
  induction acc with
  | nil => exact List.pairwise_singleton _ _
  | cons y ys ih =>
      obtain ⟨hy, hys⟩ := List.pairwise_cons.1 hacc
      have hymem : y ∈ xs := hsub List.mem_cons_self
      have hsub' : ys ⊆ xs := fun z hz => hsub (List.mem_cons_of_mem y hz)
      unfold insertBack
      by_cases hlt : before x y = true
      · rw [if_pos hlt]
        refine List.pairwise_cons.2 ⟨?_, ih hsub' hys⟩
        intro z hz
        rcases List.mem_cons.1 ((insertBack_perm _ x ys).mem_iff.1 hz) with rfl | hz
        · exact hweak.asymm z hx y hymem hlt
        · exact hy z hz
      · rw [if_neg hlt]
        refine List.pairwise_cons.2 ⟨?_, hacc⟩
        intro z hz
        rcases List.mem_cons.1 hz with rfl | hz
        · exact hlt
        · exact hweak.not_trans (hsub' hz) hymem hx (hy z hz) hlt

/-- **The sort keeps to the promise of `slices.SortFunc`.** -/
theorem sortFunc_sorts (before : α → α → Bool) (xs : List α) :
    Sorting.Sorts (fun x y => before x y = true) xs (sortFunc before xs) := by
  refine ⟨sortFunc_perm before xs, fun hweak => ?_⟩
  have hfold : ∀ (ys acc : List α), ys ⊆ xs → acc ⊆ xs →
      acc.Pairwise (fun x y => ¬before x y = true) →
      (ys.foldl (fun acc x => insertBack before x acc) acc).Pairwise
        fun x y => ¬before x y = true := by
    intro ys
    induction ys with
    | nil => exact fun _ _ _ hacc => hacc
    | cons y ys ih =>
        intro acc hys hsub hacc
        have hy : y ∈ xs := hys List.mem_cons_self
        refine ih _ (fun z hz => hys (List.mem_cons_of_mem y hz)) (fun z hz => ?_)
          (insertBack_sorted hweak hy hsub hacc)
        rcases List.mem_cons.1 ((insertBack_perm before y acc).mem_iff.1 hz) with rfl | hz
        · exact hy
        · exact hsub hz
  exact List.pairwise_reverse.2
    (hfold xs [] (List.Subset.refl xs) (List.nil_subset xs) List.Pairwise.nil)

/-- Sorting by a key. -/
theorem sortFunc_sorted (key : α → String) (xs : List α) :
    (sortFunc (fun x y => key x < key y) xs).Pairwise fun x y => key x ≤ key y := by
  have hweak : Sorting.StrictWeak (fun x y => decide (key x < key y) = true) xs := by
    constructor
    · simp
    · intro x _ y _ hxy hyx
      exact lt_asymm (of_decide_eq_true hxy) (of_decide_eq_true hyx)
    · intro x _ y _ z _ hxy hyz
      exact decide_eq_true ((of_decide_eq_true hxy).trans (of_decide_eq_true hyz))
    · intro x _ y _ z _ hxy hyx hyz hzy
      simp only [decide_eq_true_eq, not_lt] at hxy hyx hyz hzy ⊢
      exact ⟨hyz.trans hxy, hyx.trans hzy⟩
  refine ((sortFunc_sorts _ xs).sorted hweak).imp fun {x y} hyx => ?_
  exact not_lt.1 fun hlt => hyx (decide_eq_true hlt)

end Sorting

/-! ## The services of a scenario -/

section Services

variable {nodes : List FlowNode} {edges : List FlowEdge}

/-- The names of the translated services are those of the nodes. -/
theorem map_name_services (nodes : List FlowNode) (edges : List FlowEdge) :
    ((translateWorkflowGraphToServiceGraph nodes edges).services.map (·.name)).Perm
      (nodes.map FlowNode.serviceName) := by
  refine ((sortFunc_perm _ _).map _).trans ?_
  rw [List.map_map]
  exact List.Perm.refl _

theorem services_ascending (hvalid : GraphValid nodes edges) :
    ((translateWorkflowGraphToServiceGraph nodes edges).services.map (·.name)).Pairwise
      (· < ·) := by
  have hle := List.pairwise_map.2 (sortFunc_sorted ServiceConfig.name
    (nodes.map (translateService (buildServiceAliasMap nodes)
      (buildServiceDependencies nodes edges))))
  have hnodup : ((translateWorkflowGraphToServiceGraph nodes edges).services.map (·.name)).Nodup :=
    (map_name_services nodes edges).nodup_iff.2 hvalid.valid.names
  exact (hle.and hnodup).imp fun h => lt_of_le_of_ne h.1 h.2

/-- A service depends on what its name requires. -/
theorem dependsOn_services {service : ServiceConfig}
    (h : service ∈ (translateWorkflowGraphToServiceGraph nodes edges).services) :
    service.dependsOn = prerequisites (buildServiceDependencies nodes edges) service.name := by
  obtain ⟨node, -, rfl⟩ := List.mem_map.1 ((sortFunc_perm _ _).mem_iff.1 h)
  rfl

/-- What the edges require are services. -/
theorem Requires.mem_names {a b : String} (h : Requires nodes edges a b) :
    b ∈ nodes.map FlowNode.serviceName := by
  obtain ⟨edge, -, source, hsource, target, htarget, data, -, -, -, h⟩ := h
  rcases h with ⟨-, -, rfl⟩ | ⟨-, -, rfl⟩
  · exact List.mem_map.2 ⟨target, htarget, rfl⟩
  · exact List.mem_map.2 ⟨source, hsource, rfl⟩

end Services

/-- The target services of a scenario. -/
def BundleScenario.targets (scenario : BundleScenario) : List String :=
  scenario.tests.flatMap (·.targetServices)

/-- The services of a translated scenario. -/
def scenarioServices (b : Bundle) (scenario : BundleScenario) : List ServiceConfig :=
  b.serviceGraph.services.filter fun s =>
    (expandScenarioServiceSubset b.serviceGraph scenario.tests).contains s.name

section Scenario

variable {b : Bundle} {scenario : BundleScenario}
  (hgraph : GraphValid b.workflow.nodes (b.workflow.edges.getD []))
  (hscenario : ScenarioValid (b.serviceGraph.services.map (·.name)) scenario)

include hgraph

/-- The readiness dependencies of a bundle's services. -/
abbrev Bundle.Requires (b : Bundle) : String → String → Prop :=
  TokyoTester.Requires b.workflow.nodes (b.workflow.edges.getD [])

theorem scenarioServices_ascending :
    ((scenarioServices b scenario).map (·.name)).Pairwise (· < ·) :=
  (services_ascending hgraph).sublist (List.filter_sublist.map _)

theorem mem_expand_iff {name : String} :
    name ∈ expandScenarioServiceSubset b.serviceGraph scenario.tests ↔
      ∃ target ∈ scenario.targets, Relation.ReflTransGen b.Requires target name := by
  have h := mem_expandScenarioServiceSubset
    (buildServiceDependencies b.workflow.nodes (b.workflow.edges.getD []))
    b.serviceGraph.services scenario.tests name
  rw [edge_eq_requires hgraph.valid.ids] at h
  exact h

include hscenario

/-- **The services of a scenario are what its targets need.** -/
theorem mem_scenarioServices_iff {name : String} :
    name ∈ (scenarioServices b scenario).map (·.name) ↔
      ∃ target ∈ scenario.targets, Relation.ReflTransGen b.Requires target name := by
  rw [← mem_expand_iff hgraph]
  constructor
  · intro h
    obtain ⟨service, hservice, rfl⟩ := List.mem_map.1 h
    simpa using (List.mem_filter.1 hservice).2
  · intro h
    -- what is required is the name of a node, and so of a service
    have hname : name ∈ b.serviceGraph.services.map (·.name) := by
      obtain ⟨target, htarget, hreach⟩ := (mem_expand_iff hgraph).1 h
      rcases Relation.ReflTransGen.cases_tail hreach with rfl | ⟨c, -, hstep⟩
      · obtain ⟨test, htest, htarget⟩ := List.mem_flatMap.1 htarget
        exact hscenario.tests.targets test htest htarget
      · exact (map_name_services _ _).mem_iff.2 hstep.mem_names
    obtain ⟨service, hservice, rfl⟩ := List.mem_map.1 hname
    exact List.mem_map.2 ⟨service, List.mem_filter.2 ⟨hservice, by simpa using h⟩, rfl⟩

theorem scenarioServices_dependencies {service : ServiceConfig} {name : String}
    (hservice : service ∈ scenarioServices b scenario) (hname : name ∈ service.dependsOn) :
    name ∈ (scenarioServices b scenario).map (·.name) := by
  rw [dependsOn_services (List.mem_filter.1 hservice).1, mem_prerequisites_iff hgraph.valid.ids]
    at hname
  obtain ⟨target, htarget, hreach⟩ := (mem_scenarioServices_iff hgraph hscenario).1
    (List.mem_map.2 ⟨service, hservice, rfl⟩)
  exact (mem_scenarioServices_iff hgraph hscenario).2 ⟨target, htarget, hreach.tail hname⟩

/-! ## Levels -/

omit hscenario in
/-- The orchestrator's graph of a scenario has the dependencies of its services. -/
theorem prerequisites_dependencyGraph {name : String}
    (h : name ∈ (scenarioServices b scenario).map (·.name)) :
    prerequisites (dependencyGraph (scenarioServices b scenario)) name
      = prerequisites (buildServiceDependencies b.workflow.nodes (b.workflow.edges.getD []))
          name := by
  obtain ⟨service, hservice, rfl⟩ := List.mem_map.1 h
  have hkey : service.name ∈ (dependencyGraph (scenarioServices b scenario)).keys :=
    mem_keys_dependencyGraph.2 h
  obtain ⟨e, he, hname⟩ := List.mem_map.1 hkey
  obtain ⟨service', hservice', rfl⟩ := List.mem_map.1 (GoMap.mem_ofList he)
  have hnodup : ((scenarioServices b scenario).map (·.name)).Nodup :=
    (scenarioServices_ascending hgraph).imp fun h => h.ne
  obtain rfl : service' = service := List.inj_on_of_nodup_map hnodup hservice' hservice hname
  rw [prerequisites, GoMap.get?_of_mem he]
  exact dependsOn_services (List.mem_filter.1 hservice).1

/-- **The services of a scenario can be sorted into levels.** -/
theorem scenarioServices_sort {range : Nat → List String}
    (hrange : ∀ k, (range k).Perm (dependencyGraph (scenarioServices b scenario)).keys) :
    ∃ levels, topologicalSort (dependencyGraph (scenarioServices b scenario)) range = .ok levels ∧
      Leveled (dependencyGraph (scenarioServices b scenario)) [] levels ∧
      levels.flatten.Perm (dependencyGraph (scenarioServices b scenario)).keys := by
  have hsame {a : String} (ha : a ∈ (dependencyGraph (scenarioServices b scenario)).keys) :=
    prerequisites_dependencyGraph hgraph (mem_keys_dependencyGraph.1 ha)
  refine topologicalSort_ok ?_ ?_ hrange
  · intro a
    -- the graph of the scenario is a part of the graph of the workflow
    refine Subrelation.accessible ?_ (ends_of_detectCycles _ hgraph.cycles a)
    intro b' a' hdep
    rwa [hsame (prerequisites_support _ a' (List.ne_nil_of_mem hdep))] at hdep
  · intro a ha name hname
    obtain ⟨service, hservice, rfl⟩ := List.mem_map.1 (mem_keys_dependencyGraph.1 ha)
    rw [hsame ha, ← dependsOn_services (List.mem_filter.1 hservice).1] at hname
    exact mem_keys_dependencyGraph.2 (scenarioServices_dependencies hgraph hscenario hservice hname)

end Scenario

/-! ## The tests of a scenario -/

/-- What identifies a test, and what it is about. -/
structure TestIdentity where
  id : String
  name : String
  type : String
  targetServices : List String

def ScenarioTestDefinition.identity (test : ScenarioTestDefinition) : TestIdentity :=
  ⟨test.id, test.name, test.type, test.targetServices⟩

def TestConfig.identity (test : TestConfig) : TestIdentity :=
  ⟨test.id, test.name, test.type, test.targetServices⟩

theorem translateTests_identity (requiredServices : List String) (previous : Option String)
    (tests : List ScenarioTestDefinition) :
    (translateTests requiredServices previous tests).map TestConfig.identity
      = tests.map ScenarioTestDefinition.identity := by
  induction tests generalizing previous with
  | nil => rfl
  | cons test tests ih =>
      unfold translateTests
      rw [List.map_cons, List.map_cons, ih]
      rfl

theorem scenarioHasTest_iff {tests : List ScenarioTestDefinition} {id : String} :
    scenarioHasTest tests id = true ↔ id ∈ tests.map (·.id) := by
  simp [scenarioHasTest]

/-- The tests found by a list of their ids. -/
theorem map_id_findScenarioTest {tests : List ScenarioTestDefinition} {ids : List String}
    (h : ∀ id ∈ ids, scenarioHasTest tests id = true) :
    (ids.filterMap (findScenarioTest tests)).map (·.id) = ids ∧
      ∀ test ∈ ids.filterMap (findScenarioTest tests), test ∈ tests := by
  induction ids with
  | nil => simp
  | cons id ids ih =>
      obtain ⟨hmap, hmem⟩ := ih fun id' hid' => h id' (by simp [hid'])
      cases hfind : findScenarioTest tests id with
      | none =>
          have hnone := List.find?_eq_none.1 hfind
          obtain ⟨test, htest, rfl⟩ := List.mem_map.1 (scenarioHasTest_iff.1 (h id (by simp)))
          exact absurd (decide_eq_true rfl) (hnone test htest)
      | some test =>
          have hid : test.id = id := by simpa using List.find?_some hfind
          rw [List.filterMap_cons_some hfind, List.map_cons, hmap, hid]
          refine ⟨rfl, ?_⟩
          intro test' htest'
          rcases List.mem_cons.1 htest' with rfl | htest'
          · exact List.mem_of_find?_eq_some hfind
          · exact hmem test' htest'

/-- **The tests run in their order, each once.** -/
theorem orderedTests_spec {services : List String} {scenario : BundleScenario}
    (h : ScenarioValid services scenario) :
    (orderedTests scenario).Perm scenario.tests ∧
      (orderedTests scenario).map (·.id) = scenario.testOrder := by
  have hids : scenario.testOrder.filter (scenarioHasTest scenario.tests) = scenario.testOrder :=
    List.filter_eq_self.2 h.known
  obtain ⟨hmap, hmem⟩ := map_id_findScenarioTest h.known
  have hsub : scenario.testOrder ⊆ scenario.tests.map (·.id) := fun id hid =>
    scenarioHasTest_iff.1 (h.known id hid)
  -- as long as the list of tests and without repetition, the order has every id
  have hperm : scenario.testOrder.Perm (scenario.tests.map (·.id)) :=
    (h.order.subperm hsub).perm_of_length_le (by rw [List.length_map, h.length])
  have hrest : scenario.tests.filter (fun t => !scenario.testOrder.contains t.id) = [] := by
    refine List.filter_eq_nil_iff.2 fun test htest => ?_
    simpa using hperm.mem_iff.2 (List.mem_map.2 ⟨test, htest, rfl⟩)
  have hordered : orderedTests scenario
      = scenario.testOrder.filterMap (findScenarioTest scenario.tests) := by
    unfold orderedTests
    dsimp only
    rw [hids, hrest, List.append_nil]
  rw [hordered]
  refine ⟨?_, hmap⟩
  have hnodup : (scenario.testOrder.filterMap (findScenarioTest scenario.tests)).Nodup :=
    List.Nodup.of_map (·.id) (by rw [hmap]; exact h.order)
  refine (hnodup.subperm hmem).perm_of_length_le ?_
  rw [← h.length, ← congrArg List.length hmap, List.length_map]

/-! ## The result -/

/-- What the translation of a scenario should be: the services are the least set that has every
    target and what its members require, named once each and in ascending order, with their
    dependencies among them; the orchestrator sorts them; and the tests are those of the scenario
    in their order. -/
structure Executable (b : Bundle) (scenario : BundleScenario) (r : TranslationResult) : Prop where
  least : IsLeast {names : Set String |
      (∀ test ∈ scenario.tests, ∀ target ∈ test.targetServices, target ∈ names) ∧
        ∀ a ∈ names, ∀ c, b.Requires a c → c ∈ names}
    {name | name ∈ r.services.map (·.name)}
  ascending : (r.services.map (·.name)).Pairwise (· < ·)
  dependencies : ∀ service ∈ r.services, ∀ name ∈ service.dependsOn,
    name ∈ r.services.map (·.name)
  sorted : ∀ range : Nat → List String, (∀ k, (range k).Perm (dependencyGraph r.services).keys) →
    ∃ levels, topologicalSort (dependencyGraph r.services) range = .ok levels
  tests : ∃ ordered : List ScenarioTestDefinition, ordered.Perm scenario.tests ∧
    ordered.map (·.id) = scenario.testOrder ∧
    r.tests.map TestConfig.identity = ordered.map ScenarioTestDefinition.identity

/-- **A validated bundle is executable**: every scenario of it is translated, and as it should
    be. -/
theorem validated_bundle_executable {b b' : Bundle} (h : b.validate = .ok b')
    {scenario : BundleScenario} (hscenario : scenario ∈ b'.scenarios) :
    ∃ r, b'.translateScenario scenario = .ok r ∧ Executable b' scenario r := by
  obtain ⟨hgraph, hscenarios⟩ := Bundle.validate_ok h
  have hok := hscenarios scenario hscenario
  have hvalid := validateScenario_ok hok
  refine ⟨⟨scenarioServices b' scenario, translateScenarioTests scenario
    (expandScenarioServiceSubset b'.serviceGraph scenario.tests)⟩, ?_, ?_⟩
  · show (do
        validateScenario b'.serviceGraph scenario 0
        Except.ok (TranslationResult.mk (scenarioServices b' scenario) (translateScenarioTests scenario
          (expandScenarioServiceSubset b'.serviceGraph scenario.tests)))) = _
    rw [hok]
    rfl
  · refine ⟨⟨⟨?_, ?_⟩, ?_⟩, scenarioServices_ascending hgraph, ?_, ?_, ?_⟩
    · intro test htest target htarget
      exact (mem_scenarioServices_iff hgraph hvalid).2
        ⟨target, List.mem_flatMap.2 ⟨test, htest, htarget⟩, .refl⟩
    · intro a ha c hc
      obtain ⟨target, htarget, hreach⟩ := (mem_scenarioServices_iff hgraph hvalid).1 ha
      exact (mem_scenarioServices_iff hgraph hvalid).2 ⟨target, htarget, hreach.tail hc⟩
    · rintro names ⟨htargets, hclosed⟩ name hname
      obtain ⟨target, htarget, hreach⟩ := (mem_scenarioServices_iff hgraph hvalid).1 hname
      obtain ⟨test, htest, htarget⟩ := List.mem_flatMap.1 htarget
      -- a set that is closed under the dependencies holds all that a target reaches
      induction hreach with
      | refl => exact htargets test htest _ htarget
      | tail hreach hstep ih =>
          exact hclosed _ (ih ((mem_scenarioServices_iff hgraph hvalid).2
            ⟨target, List.mem_flatMap.2 ⟨test, htest, htarget⟩, hreach⟩)) _ hstep
    · exact fun service hservice name hname =>
        scenarioServices_dependencies hgraph hvalid hservice hname
    · intro range hrange
      obtain ⟨levels, hlevels, -⟩ := scenarioServices_sort hgraph hvalid hrange
      exact ⟨levels, hlevels⟩
    · obtain ⟨hperm, hids⟩ := orderedTests_spec hvalid
      exact ⟨orderedTests scenario, hperm, hids, translateTests_identity _ _ _⟩

/-- An api that requires its database, a cache that nothing requires, and a scenario of two tests
    with the api as their target. -/
def shopBundle : Bundle :=
  { schemaVersion := 2
    kind := "cots.workflow-bundle"
    workflow :=
      { name := "shop"
        nodes :=
          [{ id := "n1", data := { label := "API", service := { type := "generic", image := "api" } } },
            { id := "n2", data := { label := "Main DB", service := { type := "postgres" } } },
            { id := "n3", data := { label := "Cache", service := { type := "redis" } } }]
        edges := some [{ id := "e1", source := "n1", target := "n2" }] }
    scenarios :=
      [{ name := "smoke"
         tests :=
          [{ id := "t1", name := "list", type := "shell", targetServices := ["api"]
             shellConfig := some { command := "ls" } },
            { id := "t2", name := "pause", type := "delay", targetServices := ["api"]
              delayConfig := some { durationMs := 5 } }]
         testOrder := ["t2", "t1"] }] }

theorem validated_bundle_executable_shop :
    ∃ b' scenario r, shopBundle.validate = .ok b' ∧ scenario ∈ b'.scenarios ∧
      b'.translateScenario scenario = .ok r ∧ Executable b' scenario r ∧
      r.services.map (·.name) = ["api", "main_db"] := by
  have hshop : (shopBundle.validate.toOption.bind fun b => b.scenarios.head?.map fun scenario =>
      (b.translateScenario scenario).toOption.map fun r => r.services.map (·.name))
        = some (some ["api", "main_db"]) := by
    decide +kernel
  cases h : shopBundle.validate with
  | error e => rw [h] at hshop; simp [Except.toOption] at hshop
  | ok b' =>
      rw [h] at hshop
      cases hscenarios : b'.scenarios with
      | nil => simp [Except.toOption, hscenarios] at hshop
      | cons scenario rest =>
          obtain ⟨r, hr, hexecutable⟩ :=
            validated_bundle_executable h (hscenarios ▸ List.mem_cons_self : scenario ∈ _)
          refine ⟨b', scenario, r, rfl, hscenarios ▸ List.mem_cons_self, hr, hexecutable, ?_⟩
          simpa [Except.toOption, hscenarios, hr] using hshop

end TokyoTester
