import TokyoTester.Bundle.Readiness

set_option autoImplicit false

/-! # Cycles of bundles

`detectCycles` of the runner (`pkg/workflowbundle/bundle.go`) and that of the UI
(`ui-v2/src/modules/utils/scenario-translator.ts`) are the same search, from the keys of the graph
in the order in which their map gives them; they differ in what they make of a cycle. -/

namespace TokyoTester

open Graph

/-- `detectCycles` when the map gives its keys in an order. -/
def detectCyclesIn (graph : ServiceDeps) (order : List String) (fuel : Nat) :
    Option (List String) := searchCycles (prerequisites graph) cycleText fuel order

/-- What the UI pushes: `path.slice(path.indexOf(node)).concat(node)`. An index of `-1` slices the
    last element. -/
def Translator.closedPath (path : List String) (node : String) : Option (List String) :=
  some ((match path.idxOf? node with
    | some cycleStart => path.drop cycleStart
    | none => path.drop (path.length - 1)) ++ [node])

/-- The UI's `detectCycles` when the map gives its keys in an order. -/
def Translator.detectCycles (graph : ServiceDeps) (order : List String) (fuel : Nat) :
    Option (List (List String)) :=
  searchCycles (prerequisites graph) Translator.closedPath fuel order

/-- The order of the runner's model is that of the sorted keys. -/
theorem detectCyclesIn_keys (graph : ServiceDeps) {fuel : Nat} (hfuel : cycleSteps graph ≤ fuel) :
    detectCyclesIn graph graph.keys fuel = some (detectCycles graph) :=
  searchCycles_keys graph hfuel

theorem Translator.closedPath_isSome (path : List String) (node : String) :
    (Translator.closedPath path node).isSome := rfl

theorem idxOf?_of_mem {path : List String} {node : String} (h : node ∈ path) :
    path.idxOf? node = some (path.idxOf node) := by
  obtain ⟨k, hk⟩ := Option.ne_none_iff_exists'.1 (mt List.idxOf?_eq_none_iff.1 (not_not.2 h))
  rw [List.idxOf_eq_getD_idxOf?, hk, Option.getD_some]

section Told

variable {graph : ServiceDeps}

theorem told_cycleText {text : String} (h : Told (prerequisites graph) cycleText text) :
    ∃ names, ClosedPath (prerequisites graph) names ∧ text = Text.join "->" names := by
  obtain ⟨path, node, hmem, hchain, hreport⟩ := h
  refine ⟨_, closedPath_drop hmem hchain, ?_⟩
  rw [cycleText, idxOf?_of_mem hmem] at hreport
  exact (Option.some.inj hreport).symm

theorem told_closedPath {names : List String}
    (h : Told (prerequisites graph) Translator.closedPath names) :
    ClosedPath (prerequisites graph) names := by
  obtain ⟨path, node, hmem, hchain, hreport⟩ := h
  rw [Translator.closedPath, idxOf?_of_mem hmem] at hreport
  exact Option.some.inj hreport ▸ closedPath_drop hmem hchain

end Told

/-- **The searches for cycles are exact**: with the keys in any order both end, what they tell are
    cycles, and they tell something if and only if the graph has one. -/
theorem detectCycles_exact (graph : ServiceDeps) (order uiOrder : List String)
    (horder : order.Perm graph.keys) (huiOrder : uiOrder.Perm graph.keys) :
    ∃ cycles uiCycles,
      (∀ fuel ≥ cycleSteps graph, detectCyclesIn graph order fuel = some cycles ∧
        Translator.detectCycles graph uiOrder fuel = some uiCycles) ∧
      (cycles ≠ [] ↔ Cyclic (prerequisites graph)) ∧
      (∀ text ∈ cycles, ∃ names, ClosedPath (prerequisites graph) names ∧
        text = Text.join "->" names) ∧
      (uiCycles ≠ [] ↔ Cyclic (prerequisites graph)) ∧
      (∀ names ∈ uiCycles, ClosedPath (prerequisites graph) names) ∧
      (cycles = [] ↔ uiCycles = []) := by
  obtain ⟨cycles, hcycles, htold, hends⟩ := search_spec graph.keys_nodup
    (prerequisites_support graph) (fun _ _ h => cycleText_isSome h) (sum_le_cycleSteps graph)
    fun _ ha => horder.mem_iff.2 ha
  obtain ⟨uiCycles, huiCycles, huiTold, huiEnds⟩ := search_spec graph.keys_nodup
    (prerequisites_support graph) (fun path node _ => Translator.closedPath_isSome path node)
    (sum_le_cycleSteps graph)
    fun _ ha => huiOrder.mem_iff.2 ha
  have hiff : cycles ≠ [] ↔ Cyclic (prerequisites graph) := reports_ne_nil_iff htold hends
  have huiIff : uiCycles ≠ [] ↔ Cyclic (prerequisites graph) :=
    reports_ne_nil_iff huiTold huiEnds
  refine ⟨cycles, uiCycles, ?_, hiff, fun text h => told_cycleText (htold text h), huiIff,
    fun names h => told_closedPath (huiTold names h), not_iff_not.1 (hiff.trans huiIff.symm)⟩
  exact fun fuel hfuel => ⟨search_mono hfuel hcycles, search_mono hfuel huiCycles⟩

/-- Two services that require each other, and one that requires a name that is no service. -/
def cyclicGraph : ServiceDeps :=
  GoMap.ofList [("api", ["db", "missing"]), ("db", ["cache"]), ("cache", ["db"])]

theorem detectCycles_exact_cyclic :
    ∃ cycles uiCycles,
      (∀ fuel ≥ cycleSteps cyclicGraph,
        detectCyclesIn cyclicGraph ["db", "api", "cache"] fuel = some cycles ∧
          Translator.detectCycles cyclicGraph ["cache", "db", "api"] fuel = some uiCycles) ∧
      (cycles ≠ [] ↔ Cyclic (prerequisites cyclicGraph)) ∧
      (∀ text ∈ cycles, ∃ names, ClosedPath (prerequisites cyclicGraph) names ∧
        text = Text.join "->" names) ∧
      (uiCycles ≠ [] ↔ Cyclic (prerequisites cyclicGraph)) ∧
      (∀ names ∈ uiCycles, ClosedPath (prerequisites cyclicGraph) names) ∧
      (cycles = [] ↔ uiCycles = []) :=
  detectCycles_exact cyclicGraph ["db", "api", "cache"] ["cache", "db", "api"] (by decide)
    (by decide)

example : detectCyclesIn cyclicGraph ["db", "api", "cache"] (cycleSteps cyclicGraph)
    = some ["db->cache->db"] := by
  decide

end TokyoTester
