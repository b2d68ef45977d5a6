import TokyoTester.Library.Json
import TokyoTester.Bundle.Validation

set_option autoImplicit false

/-! # Edges in the UI (`ui-v2/src/modules/workflow/lib/edge-model.ts`)

An edge of the builder as it is stored, imported and exported. Its data, or any part of it, may be
missing in what an older version wrote; `normalizeEdge` fills it in and marks the edge for review.
A property that is `undefined`, `null` or absent is `none`: the code does not tell them apart. -/

namespace TokyoTester

namespace Ui

/-! ## Types -/

/-- `EdgeData`. The index signature admits other properties; they are in `rest`. -/
structure EdgeData where
  relation : Option String := none
  readiness : Option String := none
  label : Option String := none
  description : Option String := none
  protocol : Option String := none
  needsReview : Option Bool := none
  showLabel : Option Bool := none
  layoutPoints : Option Json := none
  rest : List (String × Json) := []
deriving Inhabited

/-- `FlowEdge`. The properties that only React Flow reads are in `rest`. -/
structure FlowEdge where
  id : String
  source : String
  target : String
  type : Option String := none
  data : Option EdgeData := none
  rest : List (String × Json) := []
deriving Inhabited

def edgeRelations : List String := ["calls", "reads", "writes", "publishes", "consumes"]

def edgeReadinessOptions : List String :=
  ["none", "source_requires_target", "target_requires_source"]

/-- A text is truthy when it is there and not empty. -/
def truthy (value : Option String) : Bool := value.any (· ≠ "")

/-! ## Normalisation -/

/-- `normalizeEdge`. -/
def normalizeEdge (edge : FlowEdge) (legacy : Bool := false) : FlowEdge :=
  let data := edge.data.getD {}
  let migrated := legacy || !truthy data.relation || !truthy data.readiness
  { edge with
    type := some "dataFlow"
    data := some {
      relation := some ((data.relation.filter edgeRelations.contains).getD "calls")
      readiness := some
        ((data.readiness.filter edgeReadinessOptions.contains).getD "source_requires_target")
      label := data.label
      description := data.description
      protocol := data.protocol
      needsReview := if migrated || data.needsReview = some true then some true else none
      showLabel := data.showLabel
      layoutPoints := data.layoutPoints } }

/-- `normalizeEdges`. -/
def normalizeEdges (edges : List FlowEdge) (legacy : Bool := false) : List FlowEdge :=
  edges.map fun edge =>
    let data := edge.data.getD {}
    normalizeEdge edge (legacy || !truthy data.relation || !truthy data.readiness)

/-- The flag that `normalizeEdges` adds is one that `normalizeEdge` computes itself. -/
theorem normalizeEdges_eq_map (edges : List FlowEdge) (legacy : Bool) :
    normalizeEdges edges legacy = edges.map (normalizeEdge · legacy) := by
  refine List.map_congr_left fun edge _ => ?_
  have hflag (a b c : Bool) : (((a || b || c) || b) || c) = (a || b || c) := by
    cases a <;> cases b <;> cases c <;> rfl
  simp only [normalizeEdge, hflag]

/-! ## The normal form -/

/-- An edge that a normalisation has been through. -/
structure Normalized (data : EdgeData) : Prop where
  relation : ∃ r ∈ edgeRelations, data.relation = some r
  readiness : ∃ r ∈ edgeReadinessOptions, data.readiness = some r
  needsReview : data.needsReview ≠ some false
  rest : data.rest = []

theorem getD_filter_mem {options : List String} {fallback : String} (h : fallback ∈ options)
    (value : Option String) : (value.filter options.contains).getD fallback ∈ options := by
  cases value with
  | none => exact h
  | some v =>
      by_cases hv : v ∈ options
      · rwa [Option.filter_some_pos (by simpa using hv)]
      · rwa [Option.filter_some_neg (by simpa using hv)]

theorem normalized_normalizeEdge (edge : FlowEdge) (legacy : Bool) :
    ∃ data, (normalizeEdge edge legacy).data = some data ∧ Normalized data := by
  refine ⟨_, rfl, ⟨_, getD_filter_mem (by decide) _, rfl⟩, ⟨_, getD_filter_mem (by decide) _, rfl⟩,
    ?_, rfl⟩
  dsimp only
  split_ifs <;> simp

theorem Normalized.truthy {data : EdgeData} (h : Normalized data) :
    truthy data.relation = true ∧ truthy data.readiness = true := by
  obtain ⟨relation, hrelation, hrelationEq⟩ := h.relation
  obtain ⟨readiness, hreadiness, hreadinessEq⟩ := h.readiness
  have hne {options : List String} {value : String} (hvalue : value ∈ options)
      (hoptions : "" ∉ options) : value ≠ "" := fun heq => hoptions (heq ▸ hvalue)
  simp [Ui.truthy, hrelationEq, hreadinessEq, hne hrelation (by decide),
    hne hreadiness (by decide)]

/-- A normalised edge stays as it is. -/
theorem normalizeEdge_of_normalized {edge : FlowEdge} {data : EdgeData}
    (hdata : edge.data = some data) (htype : edge.type = some "dataFlow") (h : Normalized data) :
    normalizeEdge edge = edge := by
  obtain ⟨relation, hrelation, hrelationEq⟩ := h.relation
  obtain ⟨readiness, hreadiness, hreadinessEq⟩ := h.readiness
  obtain ⟨hrelationTruthy, hreadinessTruthy⟩ := h.truthy
  have hrelationKept :
      some ((data.relation.filter edgeRelations.contains).getD "calls") = data.relation := by
    rw [hrelationEq, Option.filter_some_pos (by simpa using hrelation), Option.getD_some]
  have hreadinessKept :
      some ((data.readiness.filter edgeReadinessOptions.contains).getD "source_requires_target") =
        data.readiness := by
    rw [hreadinessEq, Option.filter_some_pos (by simpa using hreadiness), Option.getD_some]
  have hflag : (if data.needsReview = some true then some true else none) = data.needsReview := by
    have hreview := h.needsReview
    generalize data.needsReview = flag at hreview
    rcases flag with - | - | - <;> simp_all
  have hresult : normalizeEdge edge =
      { edge with type := some "dataFlow", data := some { data with rest := [] } } := by
    simp only [normalizeEdge, hdata, Option.getD_some, hrelationTruthy, hreadinessTruthy,
      hrelationKept, hreadinessKept, Bool.not_true, Bool.or_self, Bool.false_or,
      decide_eq_true_eq, hflag]
  rw [hresult, ← htype, ← h.rest, ← hdata]

@[simp] theorem normalizeEdge_idem (edge : FlowEdge) (legacy : Bool) :
    normalizeEdge (normalizeEdge edge legacy) = normalizeEdge edge legacy := by
  obtain ⟨data, hdata, hnormal⟩ := normalized_normalizeEdge edge legacy
  exact normalizeEdge_of_normalized hdata rfl hnormal

@[simp] theorem normalizeEdges_idem (edges : List FlowEdge) (legacy : Bool) :
    normalizeEdges (normalizeEdges edges legacy) = normalizeEdges edges legacy := by
  rw [normalizeEdges_eq_map, normalizeEdges_eq_map, List.map_map]
  refine List.map_congr_left fun edge _ => ?_
  exact normalizeEdge_idem edge legacy

end Ui

end TokyoTester
