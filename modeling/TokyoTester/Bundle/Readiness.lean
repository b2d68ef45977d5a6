import TokyoTester.Bundle.Validation
import TokyoTester.Library.Cycles
import TokyoTester.Library.Table

set_option autoImplicit false

/-! # Readiness of services

What the edges of a workflow say about its services, and what the functions over the service graph
make of it: `buildServiceDependencies` has an entry for every readiness dependency,
`validateRuntimeReferenceReadiness` and `expandScenarioServiceSubset` compute what can be reached
through them, and `detectCycles` finds a cycle if there is one. -/

namespace TokyoTester

open Graph

/-! ## Assignment -/

theorem get?_set {α : Type} (m : GoMap α) (k name : String) (v : α) :
    (GoMap.set m k v).get? name = if k = name then some v else m.get? name := by
  unfold GoMap.get? GoMap.set
  rw [GoMap.find?_insertEntry]
  split_ifs <;> rfl

theorem mem_keys_set {α : Type} {m : GoMap α} {k name : String} {v : α} :
    name ∈ (GoMap.set m k v).keys ↔ name = k ∨ name ∈ m.keys := by
  rw [← not_iff_not, ← GoMap.get?_eq_none, get?_set]
  by_cases h : k = name
  · simp [h]
  · rw [if_neg h, GoMap.get?_eq_none, not_or]
    exact ⟨fun hm => ⟨Ne.symm h, hm⟩, fun hm => hm.2⟩

/-! ## The graph as a function -/

section Graph

variable (graph : ServiceDeps)

theorem prerequisites_support (a : String) (h : prerequisites graph a ≠ []) : a ∈ graph.keys := by
  by_contra hkey
  rw [prerequisites, GoMap.get?_eq_none.2 hkey] at h
  exact h rfl

theorem sum_prerequisites :
    (graph.keys.map fun a => 1 + (prerequisites graph a).length).sum = graphSize graph := by
  unfold GoMap.keys graphSize
  rw [List.map_map]
  congr 1
  refine List.map_congr_left fun e he => ?_
  simp [prerequisites, GoMap.get?_of_mem he]

theorem reachFrom_eq_search (fuel : Nat) (todo seen : List String) :
    reachFrom graph fuel todo seen = search (prerequisites graph) fuel todo seen := by
  induction fuel generalizing todo seen with
  | zero => rfl
  | succ fuel ih =>
      cases todo with
      | nil => rfl
      | cons a rest =>
          unfold reachFrom search
          rw [ih, ih, ih]

/-- What is required by a service, directly or through others. -/
abbrev Needs : String → String → Prop := Relation.TransGen (Edge (prerequisites graph))

/-- **`reachable` finds exactly what a service needs.** -/
theorem mem_reachable_iff (a b : String) : b ∈ reachable graph a ↔ Needs graph a b := by
  unfold reachable
  have hlength : (prerequisites graph a).length ≤ graphSize graph := by
    by_cases hnone : prerequisites graph a = []
    · simp [hnone]
    · have hmem : 1 + (prerequisites graph a).length ∈
          graph.keys.map fun a => 1 + (prerequisites graph a).length :=
        List.mem_map.2 ⟨a, prerequisites_support graph a hnone, rfl⟩
      have := List.single_le_sum (fun _ _ => Nat.zero_le _) _ hmem
      rw [sum_prerequisites] at this
      omega
  rw [reachFrom_eq_search, mem_search_iff graph.keys_nodup (prerequisites_support graph)]
  · constructor
    · rintro ⟨c, hc, hreach⟩
      exact Relation.TransGen.head' hc hreach
    · intro hneeds
      obtain ⟨c, hc, hreach⟩ := Relation.TransGen.head'_iff.1 hneeds
      exact ⟨c, hc, hreach⟩
  · rw [sum_prerequisites]
    nlinarith

/-- **The search for the services of a scenario finds the targets and all they need.** -/
theorem mem_expandScenarioServiceSubset (services : List ServiceConfig)
    (tests : List ScenarioTestDefinition) (b : String) :
    b ∈ expandScenarioServiceSubset ⟨graph, services⟩ tests ↔
      ∃ a ∈ tests.flatMap (·.targetServices),
        Relation.ReflTransGen (Edge (prerequisites graph)) a b := by
  unfold expandScenarioServiceSubset
  rw [reachFrom_eq_search, mem_search_iff graph.keys_nodup (prerequisites_support graph)]
  rw [sum_prerequisites]
  nlinarith

end Graph

/-! ## What the edges say -/

/-- The name of a node's service. -/
def FlowNode.serviceName (node : FlowNode) : String := sanitizeName node.data.label

/-- An edge says that one service requires another. -/
def EdgeRequires (nodes : List FlowNode) (edge : FlowEdge) (a b : String) : Prop :=
  ∃ source ∈ nodes, ∃ target ∈ nodes, ∃ data ∈ edge.data,
    source.id = edge.source ∧ target.id = edge.target ∧
      ((data.readiness = "source_requires_target" ∧ a = source.serviceName ∧
          b = target.serviceName) ∨
        (data.readiness = "target_requires_source" ∧ a = target.serviceName ∧
          b = source.serviceName))

/-- **The readiness dependencies of a workflow.** -/
def Requires (nodes : List FlowNode) (edges : List FlowEdge) (a b : String) : Prop :=
  ∃ edge ∈ edges, EdgeRequires nodes edge a b

theorem mem_appendUnique {values : List String} {next b : String} :
    b ∈ appendUnique values next ↔ b ∈ values ∨ b = next := by
  unfold appendUnique
  split_ifs with hmem
  · constructor
    · exact .inl
    · rintro (h | rfl)
      · exact h
      · simpa using hmem
  · simp

theorem prerequisites_set (graph : ServiceDeps) (k a : String) (v : List String) :
    prerequisites (GoMap.set graph k v) a = if k = a then v else prerequisites graph a := by
  unfold prerequisites
  rw [get?_set]
  split_ifs <;> rfl

/-- Adding a prerequisite. -/
theorem mem_prerequisites_add {graph : ServiceDeps} {k next a b : String} :
    b ∈ prerequisites (GoMap.set graph k (appendUnique (prerequisites graph k) next)) a ↔
      b ∈ prerequisites graph a ∨ (a = k ∧ b = next) := by
  rw [prerequisites_set]
  by_cases h : k = a
  · subst h
    simp [mem_appendUnique]
  · have hne : a ≠ k := Ne.symm h
    simp [h, hne]

section Nodes

variable {nodes : List FlowNode} (hids : (nodes.map (·.id)).Nodup)

include hids

/-- The node of an id. -/
theorem findNode_eq_some {id : String} {node : FlowNode} :
    (nodes.reverse.find? fun n => n.id = id) = some node ↔ node ∈ nodes ∧ node.id = id := by
  constructor
  · intro h
    exact ⟨List.mem_reverse.1 (List.mem_of_find?_eq_some h), by simpa using List.find?_some h⟩
  · rintro ⟨hmem, hid⟩
    cases hf : nodes.reverse.find? fun n => n.id = id with
    | none =>
        have := List.find?_eq_none.1 hf node (List.mem_reverse.2 hmem)
        simp [hid] at this
    | some found =>
        have hfound := List.mem_reverse.1 (List.mem_of_find?_eq_some hf)
        have hkey : found.id = node.id := by
          rw [hid]
          simpa using List.find?_some hf
        exact congrArg some (List.inj_on_of_nodup_map hids hfound hmem hkey)

/-- **An edge adds what it says.** -/
theorem mem_addDependency {graph : ServiceDeps} {edge : FlowEdge} {a b : String} :
    b ∈ prerequisites (addDependency nodes graph edge) a ↔
      b ∈ prerequisites graph a ∨ EdgeRequires nodes edge a b := by
  have hnone (h : ¬ ∃ source ∈ nodes, ∃ target ∈ nodes, ∃ data ∈ edge.data,
      source.id = edge.source ∧ target.id = edge.target) : ¬ EdgeRequires nodes edge a b := by
    rintro ⟨source, hs, target, ht, data, hd, hsid, htid, -⟩
    exact h ⟨source, hs, target, ht, data, hd, hsid, htid⟩
  unfold addDependency
  dsimp only
  split
  next source target data hsource htarget hdata =>
    obtain ⟨hs, hsid⟩ := (findNode_eq_some hids).1 hsource
    obtain ⟨ht, htid⟩ := (findNode_eq_some hids).1 htarget
    -- the edge is about these two nodes and no others
    have hedge : EdgeRequires nodes edge a b ↔
        (data.readiness = "source_requires_target" ∧ a = source.serviceName ∧
            b = target.serviceName) ∨
          (data.readiness = "target_requires_source" ∧ a = target.serviceName ∧
            b = source.serviceName) := by
      constructor
      · rintro ⟨source', hs', target', ht', data', hd', hsid', htid', h⟩
        obtain rfl := List.inj_on_of_nodup_map hids hs hs' (hsid.trans hsid'.symm)
        obtain rfl := List.inj_on_of_nodup_map hids ht ht' (htid.trans htid'.symm)
        obtain rfl : data = data' := Option.some.inj (hdata.symm.trans hd')
        exact h
      · exact fun h => ⟨source, hs, target, ht, data, hdata, hsid, htid, h⟩
    rw [hedge]
    split_ifs with hsource' htarget'
    · rw [mem_prerequisites_add]
      simp [hsource', FlowNode.serviceName]
    · rw [mem_prerequisites_add]
      simp [htarget', FlowNode.serviceName]
    · simp [hsource', htarget']
  next hmissing =>
    have hno : ¬ EdgeRequires nodes edge a b := by
      refine hnone ?_
      rintro ⟨source, hs, target, ht, data, hd, hsid, htid⟩
      exact hmissing source target data ((findNode_eq_some hids).2 ⟨hs, hsid⟩)
        ((findNode_eq_some hids).2 ⟨ht, htid⟩) hd
    simp [hno]

theorem mem_foldl_addDependency (edges : List FlowEdge) (graph : ServiceDeps) {a b : String} :
    b ∈ prerequisites (edges.foldl (addDependency nodes) graph) a ↔
      b ∈ prerequisites graph a ∨ Requires nodes edges a b := by
  induction edges generalizing graph with
  | nil => simp [Requires]
  | cons edge edges ih =>
      rw [List.foldl_cons, ih, mem_addDependency hids, or_assoc]
      simp [Requires]

end Nodes

/-- **The graph of a workflow has its readiness dependencies.** -/
theorem mem_prerequisites_iff {nodes : List FlowNode} {edges : List FlowEdge} {a b : String}
    (hids : (nodes.map (·.id)).Nodup) :
    b ∈ prerequisites (buildServiceDependencies nodes edges) a ↔ Requires nodes edges a b := by
  have hempty : prerequisites (GoMap.ofList (nodes.map fun n =>
      (sanitizeName n.data.label, ([] : List String)))) a = [] := by
    by_contra hne
    obtain ⟨e, he, rfl⟩ := List.mem_map.1 (prerequisites_support _ a hne)
    rw [prerequisites, GoMap.get?_of_mem he] at hne
    obtain ⟨node, -, rfl⟩ := List.mem_map.1 (GoMap.mem_ofList he)
    exact hne rfl
  unfold buildServiceDependencies
  rw [mem_foldl_addDependency hids, hempty]
  simp

theorem edge_eq_requires {nodes : List FlowNode} {edges : List FlowEdge}
    (hids : (nodes.map (·.id)).Nodup) :
    Edge (prerequisites (buildServiceDependencies nodes edges)) = Requires nodes edges := by
  funext a b
  exact propext (mem_prerequisites_iff hids)

/-! ## Cycles -/

section Cycles

variable (graph : ServiceDeps)

/-- How the bundle spells a cycle. -/
def cycleText (path : List String) (node : String) : Option String :=
  (path.idxOf? node).map fun cycleStart => Text.join "->" (path.drop cycleStart ++ [node])

theorem cycleText_isSome {path : List String} {node : String} (h : node ∈ path) :
    (cycleText path node).isSome := by
  rw [cycleText, Option.isSome_map, Option.isSome_iff_ne_none, ne_eq, List.idxOf?_eq_none_iff]
  exact not_not.2 h

/-- The sets of `detectCycles` as those of a search. -/
def CycleSearch.state (st : CycleSearch) : CycleState String String :=
  ⟨st.visited, st.visiting, st.cycles⟩

/-- **The closure `dfs` visits as the search does.** -/
theorem cycleVisit_state (fuel : Nat) :
    (∀ node path (st : CycleSearch) (st' : CycleState String String),
      visit (prerequisites graph) cycleText fuel node path st.state = some st' →
        (cycleVisit graph fuel node path st).state = st') ∧
    ∀ nodes path (st : CycleSearch) (st' : CycleState String String),
      visitAll (prerequisites graph) cycleText fuel nodes path st.state = some st' →
        (cycleVisitAll graph fuel nodes path st).state = st' := by
  induction fuel with
  -- without fuel the search of the library gives up
  | zero =>
      refine ⟨fun _ _ _ _ h => by simp [visit] at h, ?_⟩
      intro nodes path st st' h
      cases nodes with
      | nil => simpa [visitAll, cycleVisitAll] using h
      | cons node rest => simp [visitAll] at h
  | succ fuel ih =>
      refine ⟨?_, ?_⟩
      · intro node path st st' h
        unfold visit at h
        unfold cycleVisit
        by_cases hvisiting : st.visiting.contains node
        · rw [if_pos hvisiting]
          rw [show st.state.visiting = st.visiting from rfl, if_pos hvisiting] at h
          obtain rfl := Option.some.inj h
          cases hidx : path.idxOf? node with
          | none => simp [cycleText, hidx, CycleSearch.state]
          | some k => simp [cycleText, hidx, CycleSearch.state]
        · rw [if_neg hvisiting]
          rw [show st.state.visiting = st.visiting from rfl, if_neg hvisiting] at h
          by_cases hvisited : st.visited.contains node
          · rw [if_pos hvisited]
            rw [show st.state.visited = st.visited from rfl, if_pos hvisited] at h
            exact Option.some.inj h
          · rw [if_neg hvisited]
            rw [show st.state.visited = st.visited from rfl, if_neg hvisited] at h
            obtain ⟨st₁, hst₁, h⟩ := Option.bind_eq_some_iff.1 h
            obtain rfl := Option.some.inj h
            rw [← ih.2 _ _ { st with visiting := node :: st.visiting } st₁ hst₁]
            rfl
      · intro nodes path st st' h
        cases nodes with
        | nil => simpa [visitAll, cycleVisitAll] using h
        | cons node rest =>
            unfold visitAll at h
            obtain ⟨st₁, hst₁, h⟩ := Option.bind_eq_some_iff.1 h
            rw [← ih.1 _ _ _ _ hst₁] at h
            exact ih.2 _ _ _ _ h

/-- The steps that a search for cycles needs. -/
def cycleSteps : Nat := 1 + 2 * graphSize graph

theorem sum_le_cycleSteps :
    1 + 2 * (graph.keys.map fun a => 1 + (prerequisites graph a).length).sum
      ≤ cycleSteps graph := by
  rw [sum_prerequisites]
  exact le_rfl

/-- **`detectCycles` is the search from all names.** -/
theorem searchCycles_keys {fuel : Nat} (hfuel : cycleSteps graph ≤ fuel) :
    searchCycles (prerequisites graph) cycleText fuel graph.keys = some (detectCycles graph) := by
  set steps := 2 * (graphSize graph + 1) * (graphSize graph + 1) with hsteps
  have hfold : ∀ (entries : List (String × List String)) (st : CycleSearch)
      (st' : CycleState String String),
      visitRoots (prerequisites graph) cycleText steps (entries.map (·.1)) st.state = some st' →
        (entries.foldl (fun st e => cycleVisit graph steps e.1 [] st) st).state = st' := by
    intro entries
    induction entries with
    | nil => exact fun _ _ h => Option.some.inj h
    | cons e entries ih =>
        intro st st' h
        obtain ⟨st₁, hst₁, h⟩ := Option.bind_eq_some_iff.1 h
        rw [← (cycleVisit_state graph steps).1 _ _ _ _ hst₁] at h
        exact ih _ _ h
  have hle : cycleSteps graph ≤ steps := by
    rw [hsteps, cycleSteps]
    nlinarith
  obtain ⟨st, hst, -⟩ := visitRoots_spec graph.keys_nodup (prerequisites_support graph)
    (fun _ _ h => cycleText_isSome h) (sum_le_cycleSteps graph) graph.keys {} rfl
  rw [searchCycles, visitRoots_mono hfuel hst]
  have hstate := hfold graph.entries {} st (visitRoots_mono hle hst)
  rw [Option.map_some, ← hstate]
  rfl

/-- **Without a cycle every chain of prerequisites ends.** -/
theorem ends_of_detectCycles (h : detectCycles graph = []) (a : String) :
    Ends (prerequisites graph) a := by
  obtain ⟨reports, hreports, -, hends⟩ := search_spec graph.keys_nodup
    (prerequisites_support graph) (fun _ _ h => cycleText_isSome h) (sum_le_cycleSteps graph)
    fun _ ha => ha
  rw [searchCycles_keys graph le_rfl] at hreports
  exact hends ((Option.some.inj hreports).symm.trans h) a

end Cycles

end TokyoTester
