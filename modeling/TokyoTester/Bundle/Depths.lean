import TokyoTester.Bundle.Levels

set_option autoImplicit false

/-! # The level of a service

The sort of `pkg/orchestrator/graph.go` on any graph: it fails if and only if a dependency is
missing or there is a cycle, and otherwise the level of a node is the length of its longest chain
of dependencies. -/

namespace TokyoTester

open Graph

/-- A dependency of some node is no node. -/
def MissingDependency (graph : ServiceDeps) : Prop :=
  ∃ a ∈ graph.keys, ∃ b ∈ prerequisites graph a, b ∉ graph.keys

/-- A chain of dependencies that begins at a node: the names after it. -/
def DependencyChain (graph : ServiceDeps) (a : String) (names : List String) : Prop :=
  List.IsChain (Edge (prerequisites graph)) (a :: names)

/-- The longest chain of dependencies of a node has a length. -/
def LongestChain (graph : ServiceDeps) (a : String) (n : Nat) : Prop :=
  (∃ names, DependencyChain graph a names ∧ names.length = n) ∧
    ∀ names, DependencyChain graph a names → names.length ≤ n

/-- The map of `ProvisionServices`. -/
def serviceMap (services : List ServiceConfig) : GoMap ServiceConfig :=
  GoMap.ofList (services.map fun s => (s.name, s))

/-- The services of its level whose channels a service of `provisionlevel` waits for. -/
def waitsFor (services : List ServiceConfig) (level : List String) (name : String) :
    List String :=
  (((serviceMap services).get? name).map (·.dependsOn)).getD [] |>.filter level.contains

theorem prerequisites_serviceMap (services : List ServiceConfig) (name : String) :
    (((serviceMap services).get? name).map (·.dependsOn)).getD []
      = prerequisites (dependencyGraph services) name := by
  unfold serviceMap prerequisites dependencyGraph
  rw [GoMap.get?_ofList_eq, GoMap.get?_ofList_eq, ← List.map_reverse, ← List.map_reverse,
    List.find?_map, List.find?_map, Option.map_map, Option.map_map, Option.map_map]
  rfl

/-! ## Stages -/

section Stages

variable {graph : ServiceDeps}

/-- Every level has the nodes that are left and whose dependencies are all in what is done before
    it, there are some, and in the end every node is done. -/
def Stages (graph : ServiceDeps) : List String → List (List String) → Prop
  | done, [] => graph.keys ⊆ done
  | done, level :: levels =>
    level ≠ [] ∧
    (∀ name, name ∈ level ↔ name ∈ graph.keys ∧ name ∉ done ∧ prerequisites graph name ⊆ done) ∧
      Stages graph (done ++ level) levels

theorem Stages.ne_nil : ∀ {levels : List (List String)} {done : List String},
    Stages graph done levels → ∀ level ∈ levels, level ≠ [] := by
  intro levels
  induction levels with
  | nil => simp
  | cons first levels ih =>
      intro done hstages level hlevel
      rcases List.mem_cons.1 hlevel with rfl | hlevel
      · exact hstages.1
      · exact ih hstages.2.2 level hlevel

/-- A node of a later level has a dependency in the level before. -/
theorem Stages.tight {a : String} : ∀ {done : List String} {levels : List (List String)},
    Stages graph done levels → ∀ {j : Nat} {level : List String}, levels[j + 1]? = some level →
      a ∈ level → ∃ before, levels[j]? = some before ∧
        ∃ b ∈ prerequisites graph a, b ∈ before := by
  intro done levels
  induction levels generalizing done with
  | nil =>
      intro _ j level hj
      simp at hj
  | cons first levels ih =>
      intro hstages j level hj ha
      obtain ⟨-, hfirst, hlater⟩ := hstages
      cases j with
      | succ j =>
          obtain ⟨before, hbefore, hdep⟩ := ih hlater (by simpa using hj) ha
          exact ⟨before, by simpa using hbefore, hdep⟩
      | zero =>
          cases levels with
          | nil => simp at hj
          | cons second levels =>
              obtain rfl : second = level := by simpa using hj
              obtain ⟨hkey, hnew, hdeps⟩ := (hlater.2.1 a).1 ha
              simp only [List.mem_append, not_or] at hnew
              -- it was not ready for the level before
              have hnot : ¬prerequisites graph a ⊆ done := fun hsub =>
                hnew.2 ((hfirst a).2 ⟨hkey, hnew.1, hsub⟩)
              obtain ⟨b, hb, hlate⟩ := Set.not_subset.1 hnot
              exact ⟨first, rfl, b, hb, (List.mem_append.1 (hdeps hb)).resolve_left hlate⟩

theorem Stages.leveled : ∀ {levels : List (List String)} {done : List String},
    Stages graph done levels → Leveled graph done levels := by
  intro levels
  induction levels with
  | nil => exact fun _ => trivial
  | cons level levels ih =>
      intro done hstages
      exact ⟨fun name hname => ((hstages.2.1 name).1 hname).2.2, ih hstages.2.2⟩

/-- **The level of a node is the length of its longest chain.** -/
theorem Stages.longestChain {levels : List (List String)} (h : Stages graph [] levels) {j : Nat} :
    ∀ {level : List String}, levels[j]? = some level → ∀ a ∈ level, LongestChain graph a j := by
  induction j using Nat.strong_induction_on with
  | _ j ih =>
      intro level hj a ha
      refine ⟨?_, ?_⟩
      · cases j with
        | zero => exact ⟨[], by simp [DependencyChain], rfl⟩
        | succ j =>
            obtain ⟨before, hbefore, b, hdep, hb⟩ := h.tight hj ha
            obtain ⟨⟨names, hchain, hlength⟩, -⟩ := ih j (by omega) hbefore b hb
            exact ⟨b :: names, List.isChain_cons_cons.2 ⟨hdep, hchain⟩, by simp [hlength]⟩
      · intro names hchain
        cases names with
        | nil => simp
        | cons b names =>
            obtain ⟨hdep, hrest⟩ := List.isChain_cons_cons.1 hchain
            rcases h.leveled.earlier hdep hj ha with hdone | ⟨i, hi, level', hi', hb⟩
            · cases hdone
            · have := (ih i hi hi' b hb).2 names hrest
              rw [List.length_cons]
              omega

variable {range : Nat → List String} (hrange : ∀ k, (range k).Perm graph.keys)

include hrange

/-- What the loop of the sort returns are stages. -/
theorem sortLevels_stages : ∀ (fuel pass : Nat) (visited : List String)
    {levels : List (List String)}, visited.Nodup → visited ⊆ graph.keys →
      sortLevels graph range fuel pass visited = .ok levels → Stages graph visited levels := by
  intro fuel
  induction fuel with
  | zero => exact fun _ _ _ _ _ h => by simp [sortLevels] at h
  | succ fuel ih =>
      intro pass visited levels hnodup hsub h
      unfold sortLevels at h
      split_ifs at h with hmore
      · dsimp only at h
        split_ifs at h with hempty
        cases hrest : sortLevels graph range fuel (pass + 1)
            (visited ++ nextLevel graph (range pass) visited) with
        | error e =>
            rw [hrest] at h
            cases h
        | ok rest =>
            rw [hrest] at h
            obtain rfl : nextLevel graph (range pass) visited :: rest = levels := Except.ok.inj h
            have hlevelNodup : (nextLevel graph (range pass) visited).Nodup :=
              ((hrange pass).nodup_iff.2 graph.keys_nodup).filter _
            have hdisjoint : visited.Disjoint (nextLevel graph (range pass) visited) :=
              fun b hb hb' => ((mem_nextLevel hrange).1 hb').2.1 hb
            refine ⟨List.isEmpty_iff.not.1 hempty, fun name => mem_nextLevel hrange, ih (pass + 1) _
              (hnodup.append hlevelNodup hdisjoint) ?_ hrest⟩
            exact List.append_subset.2 ⟨hsub, fun b hb => ((mem_nextLevel hrange).1 hb).1⟩
      · obtain rfl : [] = levels := Except.ok.inj h
        -- as many names are visited as there are
        exact ((hnodup.subperm hsub).perm_of_length_le (by omega)).symm.subset

end Stages

/-! ## The sort on any graph -/

theorem Blames.not_unresolved {graph : ServiceDeps} {e : String} (h : Blames graph e) :
    e ≠ "unable to resolve dependencies" := by
  rintro rfl
  rcases h with ⟨a, -, b, -, -, he⟩ | ⟨before, names, -, he⟩
  all_goals
    have hhead := congrArg (fun s : String => s.toList.head?) he
    simp [String.toList_append] at hhead

/-- A graph with something to blame has a dependency that is missing or a cycle. -/
theorem Blames.missing_or_cyclic {graph : ServiceDeps} {e : String} (h : Blames graph e) :
    MissingDependency graph ∨ Cyclic (prerequisites graph) := by
  rcases h with ⟨a, ha, b, hb, hmissing, -⟩ | ⟨before, names, hclosed, -⟩
  · exact .inl ⟨a, ha, b, hb, hmissing⟩
  · exact .inr hclosed.cyclic

/-- **`TopologicalSort` is correct**, in whatever order the map gives its nodes: it fails if and
    only if a dependency is missing or there is a cycle, and then says which; otherwise its levels
    partition the nodes, a dependency is in an earlier level, the level of a node is the length of
    its longest chain, and no service waits for one of its own level. -/
theorem topologicalSort_correct (graph : ServiceDeps) (range : Nat → List String)
    (hrange : ∀ k, (range k).Perm graph.keys) :
    ((∃ e, topologicalSort graph range = .error e) ↔
      MissingDependency graph ∨ Cyclic (prerequisites graph)) ∧
    (∀ e, topologicalSort graph range = .error e →
      Blames graph e ∧ e ≠ "unable to resolve dependencies") ∧
    ∀ levels, topologicalSort graph range = .ok levels →
      levels.flatten.Perm graph.keys ∧
      ∀ j level, levels[j]? = some level → level ≠ [] ∧ ∀ a ∈ level,
        (∀ b ∈ prerequisites graph a, ∃ i < j, ∃ level', levels[i]? = some level' ∧ b ∈ level') ∧
        LongestChain graph a j ∧
        ∀ services, graph = dependencyGraph services → waitsFor services level a = [] := by
  have hsub : range 0 ⊆ graph.keys := fun a ha => (hrange 0).mem_iff.1 ha
  rcases checkCycles_spec hsub {} rfl (by simp [CycleCheck.Settled]) with
    ⟨hok, hresolved⟩ | ⟨e, he, hblames⟩
  · -- every node is resolvable
    have hclosed : ∀ a ∈ graph.keys, prerequisites graph a ⊆ graph.keys := fun a ha =>
      (hresolved a ((hrange 0).mem_iff.2 ha)).2
    have hends : ∀ a, Ends (prerequisites graph) a := by
      intro a
      by_cases ha : a ∈ graph.keys
      · exact (hresolved a ((hrange 0).mem_iff.2 ha)).1
      · refine Acc.intro _ fun b hb => ?_
        exact absurd (prerequisites_support graph a (List.ne_nil_of_mem hb)) ha
    obtain ⟨levels, hlevels, hleveled, hperm⟩ := topologicalSort_ok hends hclosed hrange
    have hsorted : sortLevels graph range (graph.keys.length + 1) 1 [] = .ok levels := by
      have h := hlevels
      unfold topologicalSort at h
      rw [hok] at h
      exact h
    have hstages := sortLevels_stages hrange _ _ _ List.nodup_nil (by simp) hsorted
    refine ⟨iff_of_false ?_ ?_, ?_, ?_⟩
    · rintro ⟨e, he⟩
      rw [hlevels] at he
      cases he
    · rintro (⟨a, ha, b, hb, hmissing⟩ | hcyclic)
      · exact hmissing (hclosed a ha hb)
      · exact not_cyclic_of_ends hends hcyclic
    · intro e he
      rw [hlevels] at he
      cases he
    · intro levels' hlevels'
      obtain rfl := Except.ok.inj (hlevels.symm.trans hlevels')
      refine ⟨hperm, fun j level hj => ⟨hstages.ne_nil level (List.mem_of_getElem? hj), ?_⟩⟩
      intro a ha
      have hearlier : ∀ b ∈ prerequisites graph a, ∃ i < j, ∃ level',
          levels[i]? = some level' ∧ b ∈ level' := fun b hb =>
        (hleveled.earlier hb hj ha).resolve_left (by simp)
      refine ⟨hearlier, hstages.longestChain hj a ha, ?_⟩
      rintro services rfl
      unfold waitsFor
      rw [prerequisites_serviceMap, List.filter_eq_nil_iff]
      intro b hb hlevel
      -- a node of the level has the length of the level, and so has one of an earlier level
      obtain ⟨i, hi, level', hi', hb'⟩ := hearlier b hb
      have hshort := hstages.longestChain hi' b hb'
      have hlong := hstages.longestChain hj b (by simpa using hlevel)
      obtain ⟨names, hchain, hlength⟩ := hlong.1
      have := hshort.2 names hchain
      omega
  · have hfailed : topologicalSort graph range = .error e := by
      unfold topologicalSort
      rw [he]
      rfl
    refine ⟨iff_of_true ⟨e, hfailed⟩ hblames.missing_or_cyclic, ?_, ?_⟩
    · intro e' he'
      obtain rfl := Except.error.inj (hfailed.symm.trans he')
      exact ⟨hblames, hblames.not_unresolved⟩
    · intro levels hlevels
      rw [hfailed] at hlevels
      cases hlevels

theorem topologicalSort_correct_shop :
    let graph : ServiceDeps := GoMap.ofList [("api", ["db"]), ("db", []), ("web", ["api", "db"])]
    ((∃ e, topologicalSort graph (fun _ => ["web", "db", "api"]) = .error e) ↔
      MissingDependency graph ∨ Cyclic (prerequisites graph)) ∧
    ∃ levels, topologicalSort graph (fun _ => ["web", "db", "api"]) = .ok levels ∧
      levels.flatten.Perm graph.keys := by
  intro graph
  have hcorrect := topologicalSort_correct graph (fun _ => ["web", "db", "api"])
    fun _ => by decide
  have hlevels : topologicalSort graph (fun _ => ["web", "db", "api"])
      = .ok [["db"], ["api"], ["web"]] := by decide
  exact ⟨hcorrect.1, _, hlevels, (hcorrect.2.2 _ hlevels).1⟩

end TokyoTester
