import TokyoTester.Bundle.Readiness

set_option autoImplicit false

/-! # Levels of services (`pkg/orchestrator/graph.go`)

The orchestrator provisions services level by level: a level has every service that is left and
whose dependencies are all in the levels before it. First it looks for cycles on its own. Go goes
through a map in an order of its own each time; the functions below get these orders as an
argument, and what is proved holds for all of them.

On a graph whose dependencies are all there and have no cycle, the sort succeeds, every service is
in one level, and its dependencies are in earlier ones. -/

namespace TokyoTester

open Graph

/-! ## The sort -/

/-- The graph that `AddNode` builds from a list of services. -/
def dependencyGraph (services : List ServiceConfig) : ServiceDeps :=
  GoMap.ofList (services.map fun s => (s.name, s.dependsOn))

/-- The sets of `detectCycles`. -/
structure CycleCheck where
  visited : List String := []
  recStack : List String := []

/-- The verb `%v` of a list of texts. -/
def showNames (names : List String) : String := "[" ++ Text.join " " names ++ "]"

mutual

/-- `dfsCheckCycle`. -/
def dfsCheckCycle (graph : ServiceDeps) :
    Nat → String → List String → CycleCheck → Except String CycleCheck
  | 0, _, _, _ => .error "out of steps"
  | fuel + 1, nodeName, path, st =>
    match graph.get? nodeName with
    | none => .error ("dependency not found : " ++ nodeName)
    | some dependencies => do
      let st ← checkDependencies graph fuel nodeName dependencies path
        { visited := nodeName :: st.visited, recStack := nodeName :: st.recStack }
      .ok { st with recStack := st.recStack.filter (· ≠ nodeName) }

/-- Its loop over the dependencies. -/
def checkDependencies (graph : ServiceDeps) :
    Nat → String → List String → List String → CycleCheck → Except String CycleCheck
  | _, _, [], _, st => .ok st
  | 0, _, _, _, _ => .error "out of steps"
  | fuel + 1, nodeName, dep :: rest, path, st =>
    if (graph.get? dep).isNone then
      .error ("service " ++ nodeName ++ " depends on non-existant service : " ++ dep)
    else if !st.visited.contains dep then do
      let st ← dfsCheckCycle graph fuel dep (path ++ [dep]) st
      checkDependencies graph fuel nodeName rest path st
    else if st.recStack.contains dep then
      .error ("curcular dependency detected : " ++ showNames (path ++ [dep]))
    else checkDependencies graph fuel nodeName rest path st

end

/-- The loop of the orchestrator's `detectCycles`. -/
def checkCycles (graph : ServiceDeps) (fuel : Nat) :
    List String → CycleCheck → Except String Unit
  | [], _ => .ok ()
  | name :: rest, st =>
    if !st.visited.contains name then do
      let st ← dfsCheckCycle graph fuel name [name] st
      checkCycles graph fuel rest st
    else checkCycles graph fuel rest st

/-- The nodes whose dependencies are satisfied. -/
def nextLevel (graph : ServiceDeps) (order visited : List String) : List String :=
  order.filter fun name =>
    !visited.contains name && (prerequisites graph name).all visited.contains

/-- The loop of `TopologicalSort`; `range` gives the order of each pass over the nodes. -/
def sortLevels (graph : ServiceDeps) (range : Nat → List String) :
    Nat → Nat → List String → Except String (List (List String))
  | 0, _, _ => .error "out of steps"
  | fuel + 1, pass, visited =>
    if visited.length < graph.keys.length then
      let level := nextLevel graph (range pass) visited
      if level.isEmpty then .error "unable to resolve dependencies"
      else do
        let levels ← sortLevels graph range fuel (pass + 1) (visited ++ level)
        .ok (level :: levels)
    else .ok []

/-- `TopologicalSort`. -/
def topologicalSort (graph : ServiceDeps) (range : Nat → List String) :
    Except String (List (List String)) := do
  checkCycles graph (2 * graphSize graph + 1) (range 0) {}
  sortLevels graph range (graph.keys.length + 1) 1 []

theorem mem_keys_dependencyGraph {services : List ServiceConfig} {name : String} :
    name ∈ (dependencyGraph services).keys ↔ name ∈ services.map (·.name) := by
  unfold dependencyGraph
  rw [GoMap.mem_keys_ofList, List.map_map]
  rfl

/-! ## Cycles -/

section Levels

variable {graph : ServiceDeps}

theorem weight_visited_le (st : CycleCheck) :
    weight (prerequisites graph) graph.keys st.visited ≤ graphSize graph := by
  rw [← sum_prerequisites]
  exact weight_le _

/-- What a check that succeeds has done. -/
structure Checked (st st' : CycleCheck) : Prop where
  visited : st.visited ⊆ st'.visited
  recStack : st'.recStack ⊆ st.recStack

/-- What the check says when it fails: a dependency that is missing, or a path that closes. -/
def Blames (graph : ServiceDeps) (e : String) : Prop :=
  (∃ a ∈ graph.keys, ∃ b ∈ prerequisites graph a, b ∉ graph.keys ∧
    e = "service " ++ a ++ " depends on non-existant service : " ++ b) ∨
  ∃ before names, ClosedPath (prerequisites graph) names ∧
    e = "curcular dependency detected : " ++ showNames (before ++ names)

/-- A node whose dependencies are there, and from which every chain of dependencies ends. -/
def Resolvable (graph : ServiceDeps) (a : String) : Prop :=
  Ends (prerequisites graph) a ∧ prerequisites graph a ⊆ graph.keys

/-- What is visited and not on the stack is resolvable. -/
def CycleCheck.Settled (graph : ServiceDeps) (st : CycleCheck) : Prop :=
  ∀ a ∈ st.visited, a ∉ st.recStack → Resolvable graph a

/-- A path of the graph that ends in a name and has all names on the stack. -/
structure OnPath (graph : ServiceDeps) (path : List String) (name : String) (st : CycleCheck) :
    Prop where
  chain : List.IsChain (Edge (prerequisites graph)) path
  last : path.getLast? = some name
  stack : st.recStack ⊆ path

theorem OnPath.extend {path : List String} {name dep : String} {st : CycleCheck}
    (h : OnPath graph path name st) (hdep : dep ∈ prerequisites graph name) :
    List.IsChain (Edge (prerequisites graph)) (path ++ [dep]) := by
  refine List.isChain_append.2 ⟨h.chain, by simp, ?_⟩
  intro a ha b hb
  obtain rfl : name = a := by simpa [h.last] using ha
  obtain rfl : dep = b := by simpa using hb
  exact hdep

/-- **The check of a name** succeeds and leaves it resolvable, or it says what is wrong. A
    dependency that was visited is resolvable, unless it is on the stack and closes the path. -/
theorem dfsCheckCycle_spec (fuel : Nat) :
    (∀ name path st, 1 + 2 * weight (prerequisites graph) graph.keys st.visited ≤ fuel →
      name ∉ st.visited → name ∈ graph.keys → OnPath graph path name st →
        CycleCheck.Settled graph st →
        (∃ st', dfsCheckCycle graph fuel name path st = .ok st' ∧ Checked st st' ∧
          CycleCheck.Settled graph st' ∧ Resolvable graph name ∧ name ∈ st'.visited) ∨
        ∃ e, dfsCheckCycle graph fuel name path st = .error e ∧ Blames graph e) ∧
    ∀ name deps path st, 2 * deps.length + 2 * weight (prerequisites graph) graph.keys st.visited
        ≤ fuel → name ∈ graph.keys → deps ⊆ prerequisites graph name →
      OnPath graph path name st → CycleCheck.Settled graph st →
        (∃ st', checkDependencies graph fuel name deps path st = .ok st' ∧ Checked st st' ∧
          CycleCheck.Settled graph st' ∧ ∀ b ∈ deps, b ∈ graph.keys ∧ Resolvable graph b) ∨
        ∃ e, checkDependencies graph fuel name deps path st = .error e ∧ Blames graph e := by
  induction fuel with
  | zero =>
      refine ⟨fun _ _ _ hfuel => by omega, ?_⟩
      intro name deps path st hfuel _ _ _ hsettled
      obtain rfl : deps = [] := List.length_eq_zero_iff.1 (by omega)
      exact .inl ⟨st, by simp [checkDependencies], ⟨fun _ h => h, fun _ h => h⟩, hsettled, by simp⟩
  | succ fuel ih =>
      refine ⟨?_, ?_⟩
      · intro name path st hfuel hnew hkey hpath hsettled
        obtain ⟨e, he, rfl⟩ := List.mem_map.1 hkey
        have hdeps : prerequisites graph e.1 = e.2 := by
          simp [prerequisites, GoMap.get?_of_mem he]
        have hweight := weight_cons graph.keys_nodup (prerequisites_support graph e.1) hnew
        rw [hdeps] at hweight
        have hpath' : OnPath graph path e.1
            { visited := e.1 :: st.visited, recStack := e.1 :: st.recStack } :=
          ⟨hpath.chain, hpath.last,
            List.cons_subset.2 ⟨List.mem_of_getLast? hpath.last, hpath.stack⟩⟩
        have hsettled' : CycleCheck.Settled graph
            { visited := e.1 :: st.visited, recStack := e.1 :: st.recStack } := by
          intro a ha hoff
          simp only [List.mem_cons, not_or] at ha hoff
          exact hsettled a (ha.resolve_left hoff.1) hoff.2
        rcases ih.2 e.1 e.2 path { visited := e.1 :: st.visited, recStack := e.1 :: st.recStack }
          (by show 2 * e.2.length + 2 * weight _ _ (e.1 :: st.visited) ≤ fuel; omega) hkey
          (by rw [hdeps]; exact fun _ h => h) hpath' hsettled' with
          ⟨st', hst', hchecked, hbelow, hresolved⟩ | ⟨message, hmessage, hblames⟩
        · have hgood : Resolvable graph e.1 := by
            refine ⟨Acc.intro _ fun b hb => ?_, fun b hb => ?_⟩
            · exact (hresolved b (hdeps ▸ hb)).2.1
            · exact (hresolved b (hdeps ▸ hb)).1
          refine .inl ⟨{ st' with recStack := st'.recStack.filter (· ≠ e.1) }, ?_, ⟨?_, ?_⟩, ?_,
            hgood, hchecked.visited (by simp)⟩
          · simp [dfsCheckCycle, GoMap.get?_of_mem he, hst', bind, Except.bind]
          · exact fun a ha => hchecked.visited (List.mem_cons_of_mem _ ha)
          · intro a ha
            obtain ⟨hmem, hne⟩ := List.mem_filter.1 ha
            rcases List.mem_cons.1 (hchecked.recStack hmem) with rfl | ha
            · simp at hne
            · exact ha
          · intro a ha hoff
            by_cases hname : a = e.1
            · exact hname ▸ hgood
            · exact hbelow a ha fun hon => hoff (List.mem_filter.2 ⟨hon, by simpa using hname⟩)
        · exact .inr ⟨message,
            by simp [dfsCheckCycle, GoMap.get?_of_mem he, hmessage, bind, Except.bind], hblames⟩
      · intro name deps path st hfuel hkey hsub hpath hsettled
        cases deps with
        | nil =>
            exact .inl ⟨st, by simp [checkDependencies], ⟨fun _ h => h, fun _ h => h⟩, hsettled,
              by simp⟩
        | cons dep rest =>
            rw [List.length_cons] at hfuel
            have hdep : dep ∈ prerequisites graph name := hsub (by simp)
            have hrest : rest ⊆ prerequisites graph name := fun a ha => hsub (by simp [ha])
            by_cases hdepKey : dep ∈ graph.keys
            · have hpresent : (graph.get? dep).isNone = false := by
                rw [Option.isNone_eq_false_iff, Option.isSome_iff_ne_none, ne_eq,
                  GoMap.get?_eq_none]
                exact not_not.2 hdepKey
              by_cases hvisited : dep ∈ st.visited
              · by_cases hon : dep ∈ st.recStack
                · -- the path closes
                  refine .inr ⟨"curcular dependency detected : " ++ showNames (path ++ [dep]), ?_,
                    .inr ⟨path.take (path.idxOf dep), path.drop (path.idxOf dep) ++ [dep],
                      closedPath_drop (hpath.stack hon) (hpath.extend hdep), ?_⟩⟩
                  · rw [checkDependencies, hpresent]
                    simp [hvisited, hon]
                  · rw [← List.append_assoc, List.take_append_drop]
                have hresolved : Resolvable graph dep := hsettled dep hvisited hon
                have hstep : checkDependencies graph (fuel + 1) name (dep :: rest) path st
                    = checkDependencies graph fuel name rest path st := by
                  rw [checkDependencies, hpresent]
                  simp [hvisited, hon]
                rw [hstep]
                rcases ih.2 name rest path st (by omega) hkey hrest hpath hsettled with
                  ⟨st', hst', hchecked, hbelow, hothers⟩ | hfailed
                · refine .inl ⟨st', hst', hchecked, hbelow, ?_⟩
                  intro b hb
                  rcases List.mem_cons.1 hb with rfl | hb
                  · exact ⟨hdepKey, hresolved⟩
                  · exact hothers b hb
                · exact .inr hfailed
              · rcases ih.1 dep (path ++ [dep]) st (by omega) hvisited hdepKey
                  ⟨hpath.extend hdep, by simp, fun a ha => List.mem_append_left _ (hpath.stack ha)⟩
                  hsettled with
                  ⟨st₁, hst₁, hfirst, hsettled₁, hresolved, -⟩ | ⟨message, hmessage, hblames⟩
                · have hle : weight (prerequisites graph) graph.keys st₁.visited
                      ≤ weight (prerequisites graph) graph.keys st.visited :=
                    weight_le_of_subset hfirst.visited
                  have hstep : checkDependencies graph (fuel + 1) name (dep :: rest) path st
                      = checkDependencies graph fuel name rest path st₁ := by
                    rw [checkDependencies, hpresent]
                    simp [hvisited, hst₁, bind, Except.bind]
                  rw [hstep]
                  rcases ih.2 name rest path st₁ (by omega) hkey hrest
                    ⟨hpath.chain, hpath.last, fun a ha => hpath.stack (hfirst.recStack ha)⟩
                    hsettled₁ with ⟨st', hst', hchecked, hbelow, hothers⟩ | hfailed
                  · refine .inl ⟨st', hst', ⟨fun a ha => hchecked.visited (hfirst.visited ha),
                      fun a ha => hfirst.recStack (hchecked.recStack ha)⟩, hbelow, ?_⟩
                    intro b hb
                    rcases List.mem_cons.1 hb with rfl | hb
                    · exact ⟨hdepKey, hresolved⟩
                    · exact hothers b hb
                  · exact .inr hfailed
                · refine .inr ⟨message, ?_, hblames⟩
                  rw [checkDependencies, hpresent]
                  simp [hvisited, hmessage, bind, Except.bind]
            · -- the dependency is missing
              refine .inr ⟨_, ?_, .inl ⟨name, hkey, dep, hdep, hdepKey, rfl⟩⟩
              have hnone : graph.get? dep = none := GoMap.get?_eq_none.2 hdepKey
              simp [checkDependencies, hnone]

theorem checkCycles_spec {names : List String} (hnames : names ⊆ graph.keys) :
    ∀ st : CycleCheck, st.recStack = [] → CycleCheck.Settled graph st →
      (checkCycles graph (2 * graphSize graph + 1) names st = .ok () ∧
        ∀ a ∈ names, Resolvable graph a) ∨
      ∃ e, checkCycles graph (2 * graphSize graph + 1) names st = .error e ∧ Blames graph e := by
  induction names with
  | nil => exact fun _ _ _ => .inl ⟨rfl, by simp⟩
  | cons name names ih =>
      intro st hstack hsettled
      have hrest := ih fun a ha => hnames (by simp [ha])
      by_cases hvisited : name ∈ st.visited
      · have hstep : checkCycles graph (2 * graphSize graph + 1) (name :: names) st
            = checkCycles graph (2 * graphSize graph + 1) names st := by
          simp [checkCycles, hvisited]
        rw [hstep]
        refine (hrest st hstack hsettled).imp_left fun h => ⟨h.1, List.forall_mem_cons.2 ⟨?_, h.2⟩⟩
        exact hsettled name hvisited (by simp [hstack])
      · have hweight : weight (prerequisites graph) graph.keys st.visited ≤ graphSize graph :=
          weight_visited_le st
        rcases (dfsCheckCycle_spec (2 * graphSize graph + 1)).1 name [name] st (by omega) hvisited
          (hnames (by simp)) ⟨by simp, by simp, by simp [hstack]⟩ hsettled with
          ⟨st', hst', hchecked, hsettled', hresolved, -⟩ | ⟨e, he, hblames⟩
        · have hstack' : st'.recStack = [] := by
            have := hchecked.recStack
            rw [hstack] at this
            exact List.subset_nil.1 this
          have hstep : checkCycles graph (2 * graphSize graph + 1) (name :: names) st
              = checkCycles graph (2 * graphSize graph + 1) names st' := by
            simp [checkCycles, hvisited, hst', bind, Except.bind]
          rw [hstep]
          exact (hrest st' hstack' hsettled').imp_left fun h =>
            ⟨h.1, List.forall_mem_cons.2 ⟨hresolved, h.2⟩⟩
        · exact .inr ⟨e, by simp [checkCycles, hvisited, he, bind, Except.bind], hblames⟩

variable (hends : ∀ a, Ends (prerequisites graph) a)
  (hclosed : ∀ a ∈ graph.keys, prerequisites graph a ⊆ graph.keys)

include hends hclosed

/-- Nothing is to blame in a graph without a cycle whose dependencies are all there. -/
theorem not_blames (e : String) : ¬Blames graph e := by
  rintro (⟨a, ha, b, hb, hmissing, -⟩ | ⟨before, names, hclosed', -⟩)
  · exact hmissing (hclosed a ha hb)
  · exact not_cyclic_of_ends hends hclosed'.cyclic

theorem checkCycles_ok {names : List String} (hnames : names ⊆ graph.keys) :
    checkCycles graph (2 * graphSize graph + 1) names {} = .ok () := by
  rcases checkCycles_spec hnames {} rfl (by simp [CycleCheck.Settled]) with
    ⟨hok, -⟩ | ⟨e, -, hblames⟩
  · exact hok
  · exact absurd hblames (not_blames hends hclosed e)

/-! ## Levels -/

omit hends hclosed in
/-- The dependencies of every level are in what is done before it. -/
def Leveled (graph : ServiceDeps) : List String → List (List String) → Prop
  | _, [] => True
  | done, level :: levels =>
    (∀ name ∈ level, prerequisites graph name ⊆ done) ∧ Leveled graph (done ++ level) levels

omit hends hclosed in
/-- A dependency is done before, or in an earlier level. -/
theorem Leveled.earlier {a b : String} (hdep : b ∈ prerequisites graph a) :
    ∀ {done : List String} {levels : List (List String)}, Leveled graph done levels →
      ∀ {j : Nat} {level : List String}, levels[j]? = some level → a ∈ level →
        b ∈ done ∨ ∃ i < j, ∃ level', levels[i]? = some level' ∧ b ∈ level' := by
  intro done levels
  induction levels generalizing done with
  | nil =>
      intro _ j level hj
      simp at hj
  | cons first levels ih =>
      intro hlevels j level hj ha
      cases j with
      | zero =>
          obtain rfl : first = level := by simpa using hj
          exact .inl (hlevels.1 a ha hdep)
      | succ j =>
          rcases ih hlevels.2 (by simpa using hj) ha with hdone | ⟨i, hi, level', hi', hb⟩
          · rcases List.mem_append.1 hdone with hdone | hfirst
            · exact .inl hdone
            · exact .inr ⟨0, by omega, first, by simp, hfirst⟩
          · exact .inr ⟨i + 1, by omega, level', by simpa using hi', hb⟩

variable {range : Nat → List String} (hrange : ∀ k, (range k).Perm graph.keys)

include hrange

omit hends hclosed in
theorem mem_nextLevel {pass : Nat} {visited : List String} {name : String} :
    name ∈ nextLevel graph (range pass) visited ↔
      name ∈ graph.keys ∧ name ∉ visited ∧ prerequisites graph name ⊆ visited := by
  unfold nextLevel
  rw [List.mem_filter, (hrange pass).mem_iff]
  simp [List.subset_def]

/-- **The loop of the sort puts every node that is left into a level.** -/
theorem sortLevels_ok : ∀ (fuel pass : Nat) (visited : List String), visited.Nodup →
    visited ⊆ graph.keys → graph.keys.length < fuel + visited.length →
      ∃ levels, sortLevels graph range fuel pass visited = .ok levels ∧
        Leveled graph visited levels ∧ (visited ++ levels.flatten).Perm graph.keys := by
  intro fuel
  induction fuel with
  | zero =>
      intro pass visited hnodup hsub hfuel
      have := (hnodup.subperm hsub).length_le
      omega
  | succ fuel ih =>
      intro pass visited hnodup hsub hfuel
      by_cases hmore : visited.length < graph.keys.length
      · -- one of the nodes that are left has its dependencies visited
        have hready : ∃ a ∈ graph.keys.filter (fun a => !visited.contains a),
            ∀ b ∈ prerequisites graph a, b ∈ visited := by
          refine exists_ready (fun a _ => hends a) ?_ ?_
          · intro a ha b hb
            by_cases hdone : b ∈ visited
            · exact .inl hdone
            · refine .inr (List.mem_filter.2 ⟨hclosed a (List.mem_filter.1 ha).1 hb, ?_⟩)
              simpa using hdone
          · intro hnone
            have hall : graph.keys ⊆ visited := by
              intro a ha
              by_contra hleft
              have hmem : a ∈ graph.keys.filter fun a => !visited.contains a :=
                List.mem_filter.2 ⟨ha, by simpa using hleft⟩
              rw [hnone] at hmem
              cases hmem
            have := (graph.keys_nodup.subperm hall).length_le
            omega
        obtain ⟨a, ha, hdeps⟩ := hready
        obtain ⟨haKey, haNew⟩ := List.mem_filter.1 ha
        have haLevel : a ∈ nextLevel graph (range pass) visited :=
          (mem_nextLevel hrange).2 ⟨haKey, by simpa using haNew, hdeps⟩
        set level := nextLevel graph (range pass) visited with hlevel
        have hlevelNodup : level.Nodup := ((hrange pass).nodup_iff.2 graph.keys_nodup).filter _
        have hdisjoint : visited.Disjoint level := by
          intro b hb hb'
          exact ((mem_nextLevel hrange).1 hb').2.1 hb
        have hlength : 0 < level.length := List.length_pos_of_mem haLevel
        obtain ⟨levels, hlevels, hleveled, hperm⟩ := ih (pass + 1) (visited ++ level)
          (hnodup.append hlevelNodup hdisjoint)
          (List.append_subset.2 ⟨hsub, fun b hb => ((mem_nextLevel hrange).1 hb).1⟩)
          (by rw [List.length_append]; omega)
        have hnonempty : level.isEmpty = false := by
          cases hl : level with
          | nil =>
              rw [hl] at haLevel
              cases haLevel
          | cons b rest => rfl
        refine ⟨level :: levels, ?_, ⟨fun b hb => ((mem_nextLevel hrange).1 hb).2.2, hleveled⟩, ?_⟩
        · unfold sortLevels
          rw [if_pos hmore]
          dsimp only
          rw [← hlevel, hnonempty, hlevels]
          rfl
        · rwa [List.flatten_cons, ← List.append_assoc]
      · have hsame : visited.Perm graph.keys :=
          (hnodup.subperm hsub).perm_of_length_le (by omega)
        refine ⟨[], ?_, trivial, by simpa using hsame⟩
        unfold sortLevels
        rw [if_neg hmore]

/-- **The sort succeeds**: every node is in a level, and its dependencies are in earlier ones. -/
theorem topologicalSort_ok :
    ∃ levels, topologicalSort graph range = .ok levels ∧ Leveled graph [] levels ∧
      levels.flatten.Perm graph.keys := by
  obtain ⟨levels, hlevels, hleveled, hperm⟩ := sortLevels_ok hends hclosed hrange
    (graph.keys.length + 1) 1 [] List.nodup_nil (by simp) (by simp)
  refine ⟨levels, ?_, hleveled, by simpa using hperm⟩
  unfold topologicalSort
  rw [checkCycles_ok hends hclosed fun a ha => (hrange 0).mem_iff.1 ha]
  exact hlevels

end Levels

end TokyoTester
