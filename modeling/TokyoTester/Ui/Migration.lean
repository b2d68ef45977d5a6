import TokyoTester.Bundle.Executable
import TokyoTester.Ui.WorkflowBundle

set_option autoImplicit false

/-! # Migration of edges on both sides

`normalize` of the runner fills in the edges of a decoded bundle in place; the UI checks them in
`validateWorkflowBundle` and fills them in in `normalizeEdges`. What an edge says is compared
through `decoded`, the struct that the runner reads from the JSON of the UI's edge: there an absent
text is the empty one and an absent flag is false. -/

namespace TokyoTester

open Transaction

namespace Ui

/-! ## What the runner decodes -/

def EdgeData.decoded (data : EdgeData) : FlowEdgeData where
  relation := data.relation.getD ""
  readiness := data.readiness.getD ""
  label := data.label.getD ""
  description := data.description.getD ""
  protocol := data.protocol.getD ""
  needsReview := data.needsReview.getD false

def FlowEdge.decoded (edge : FlowEdge) : TokyoTester.FlowEdge where
  id := edge.id
  source := edge.source
  target := edge.target
  data := edge.data.map EdgeData.decoded

/-- The runner's bundle has the version and the edges of the UI's. -/
structure SameEdges (u : WorkflowBundle) (b : Bundle) : Prop where
  schemaVersion : b.schemaVersion.toInt = u.schemaVersion
  edges : b.workflow.edges = some (u.workflow.edges.map FlowEdge.decoded)

/-- Both edges have their data, and it says the same. -/
def SaysTheSame (edge : FlowEdge) (decoded : TokyoTester.FlowEdge) : Prop :=
  ∃ data decodedData, edge.data = some data ∧ decoded.data = some decodedData ∧
    data.relation = some decodedData.relation ∧ data.readiness = some decodedData.readiness ∧
    (data.needsReview = some true ↔ decodedData.needsReview = true)

/-! ## One edge -/

theorem truthy_eq (value : Option String) : truthy value = decide (value.getD "" ≠ "") := by
  cases value <;> simp [truthy]

/-- The two checks of a text that stands for one of some options are one. -/
theorem option_check {options : List String} {value : Option String} :
    (!truthy value || value.any options.contains) = true ↔
      (decide (value.getD "" = "") || options.contains (value.getD "")) = true := by
  cases value <;> simp [truthy]

/-- Both sides keep a text that is one of the options, and replace an absent one. -/
theorem getD_option {options : List String} {fallback : String} {value : Option String}
    (hempty : "" ∉ options) (h : (!truthy value || value.any options.contains) = true) :
    (value.filter options.contains).getD fallback =
      if value.getD "" = "" then fallback else value.getD "" := by
  cases value with
  | none => simp
  | some v =>
      by_cases hv : v = ""
      · subst hv
        rw [Option.filter_some_neg (by simpa using hempty)]
        simp
      · have hkept : options.contains v = true := by simpa [truthy, hv] using h
        rw [Option.filter_some_pos hkept]
        simp [hv]

theorem checkEdge_eq_ok {edge : FlowEdge} :
    checkEdge edge = .ok () ↔
      (!truthy (edge.data.getD {}).relation ||
        (edge.data.getD {}).relation.any edgeRelations.contains) = true ∧
      (!truthy (edge.data.getD {}).readiness ||
        (edge.data.getD {}).readiness.any edgeReadinessOptions.contains) = true := by
  simp only [checkEdge, ensure_bind_eq_ok, ensure_eq_ok]

theorem decoded_getD (edge : FlowEdge) :
    (edge.decoded.data.getD {}) = (edge.data.getD {}).decoded := by
  unfold FlowEdge.decoded
  cases edge.data <;> rfl

/-- The flag of the UI is that of the runner, which adds the reasons for it in another order. -/
theorem needsReview_decoded (edge : FlowEdge) (legacy : Bool) :
    (if (legacy || !truthy (edge.data.getD {}).relation || !truthy (edge.data.getD {}).readiness ||
        decide ((edge.data.getD {}).needsReview = some true)) then some true else none).getD false =
      ((edge.data.getD {}).decoded.needsReview || legacy ||
        (edge.decoded.data.isNone || decide ((edge.data.getD {}).decoded.relation = "") ||
          decide ((edge.data.getD {}).decoded.readiness = ""))) := by
  obtain ⟨id, source, target, type, data, rest⟩ := edge
  have hflag (c : Bool) : (if c then some true else none).getD false = c := by cases c <;> rfl
  rcases data with - | ⟨relation, readiness, -, -, -, flag, -, -, -⟩
  · cases legacy <;> rfl
  · rw [hflag, truthy_eq, truthy_eq, Bool.eq_iff_iff]
    simp only [Bool.or_eq_true, decide_eq_true_eq]
    rcases flag with - | - | - <;> simp [EdgeData.decoded, FlowEdge.decoded, or_assoc]

/-- On one edge the two sides do the same. -/
theorem normalizeEdge_decoded (edge : FlowEdge) (legacy : Bool) (result : TokyoTester.FlowEdge) :
    TokyoTester.normalizeEdge legacy edge.decoded = .ok result ↔
      checkEdge edge = .ok () ∧ result = (normalizeEdge edge legacy).decoded := by
  unfold TokyoTester.normalizeEdge
  rw [decoded_getD, ensure_bind_eq_ok, ensure_bind_eq_ok, ← and_assoc, checkEdge_eq_ok,
    option_check, option_check]
  refine and_congr_right fun hchecks => ?_
  obtain ⟨hrelation, hreadiness⟩ := hchecks
  have hrelationKept : ((edge.data.getD {}).relation.filter edgeRelations.contains).getD "calls" =
      if (edge.data.getD {}).relation.getD "" = "" then "calls"
      else (edge.data.getD {}).relation.getD "" :=
    getD_option (by decide) (option_check.2 hrelation)
  have hreadinessKept :
      ((edge.data.getD {}).readiness.filter edgeReadinessOptions.contains).getD
        "source_requires_target" =
      if (edge.data.getD {}).readiness.getD "" = "" then "source_requires_target"
      else (edge.data.getD {}).readiness.getD "" :=
    getD_option (by decide) (option_check.2 hreadiness)
  have hsame : (normalizeEdge edge legacy).decoded = { edge.decoded with
      data := some { (edge.data.getD {}).decoded with
        relation := if (edge.data.getD {}).decoded.relation = "" then "calls"
          else (edge.data.getD {}).decoded.relation
        readiness := if (edge.data.getD {}).decoded.readiness = "" then "source_requires_target"
          else (edge.data.getD {}).decoded.readiness
        needsReview := (edge.data.getD {}).decoded.needsReview || legacy ||
          (edge.decoded.data.isNone || decide ((edge.data.getD {}).decoded.relation = "") ||
            decide ((edge.data.getD {}).decoded.readiness = "")) } } := by
    rw [← needsReview_decoded]
    simp only [normalizeEdge, FlowEdge.decoded, EdgeData.decoded, Option.map_some, Option.getD_some,
      hrelationKept, hreadinessKept]
    rfl
  rw [hsame, Except.ok.injEq, eq_comm]

/-! ## All edges -/

/-- The loop of the runner over the edges that it decoded. -/
theorem mapM_normalizeEdge (edges : List FlowEdge) (legacy : Bool) :
    ∀ result, (edges.map FlowEdge.decoded).mapM (TokyoTester.normalizeEdge legacy) = .ok result ↔
      (∀ edge ∈ edges, checkEdge edge = .ok ()) ∧
        result = (normalizeEdges edges legacy).map FlowEdge.decoded := by
  rw [normalizeEdges_eq_map]
  induction edges with
  | nil =>
      intro result
      show Except.ok [] = Except.ok result ↔ _
      simp [eq_comm]
  | cons edge edges ih =>
      intro result
      rw [List.map_cons, List.mapM_cons, bind_eq_ok, List.forall_mem_cons]
      constructor
      · rintro ⟨first, hfirst, hrest⟩
        obtain ⟨others, hothers, hresult⟩ := bind_eq_ok.1 hrest
        obtain ⟨hedge, rfl⟩ := (normalizeEdge_decoded edge legacy first).1 hfirst
        obtain ⟨hedges, rfl⟩ := (ih others).1 hothers
        exact ⟨⟨hedge, hedges⟩, (Except.ok.inj hresult).symm⟩
      · rintro ⟨⟨hedge, hedges⟩, rfl⟩
        refine ⟨_, (normalizeEdge_decoded edge legacy _).2 ⟨hedge, rfl⟩, bind_eq_ok.2 ?_⟩
        exact ⟨_, (ih _).2 ⟨hedges, rfl⟩, rfl⟩

/-- What an edge says once it is normalised, the decoded edge says as well. -/
theorem saysTheSame_decoded (edge : FlowEdge) (legacy : Bool) :
    SaysTheSame (normalizeEdge edge legacy) (normalizeEdge edge legacy).decoded := by
  obtain ⟨data, hdata, hnormal⟩ := normalized_normalizeEdge edge legacy
  obtain ⟨relation, -, hrelation⟩ := hnormal.relation
  obtain ⟨readiness, -, hreadiness⟩ := hnormal.readiness
  refine ⟨data, data.decoded, hdata, by simp [FlowEdge.decoded, hdata], ?_, ?_, ?_⟩
  · simp [EdgeData.decoded, hrelation]
  · simp [EdgeData.decoded, hreadiness]
  · rcases hflag : data.needsReview with - | - | - <;> simp [EdgeData.decoded, hflag]

theorem forall₂_saysTheSame (edges : List FlowEdge) (legacy : Bool) :
    List.Forall₂ SaysTheSame (normalizeEdges edges legacy)
      ((normalizeEdges edges legacy).map FlowEdge.decoded) := by
  rw [normalizeEdges_eq_map]
  induction edges with
  | nil => exact .nil
  | cons edge edges ih => exact .cons (saysTheSame_decoded edge legacy) ih

/-! ## Bundles -/

theorem normalizeWorkflowBundle_idem (u : WorkflowBundle) :
    normalizeWorkflowBundle (normalizeWorkflowBundle u) = normalizeWorkflowBundle u := by
  exact congrArg (fun edges => { u with
      schemaVersion := workflowBundleSchemaVersion
      workflow := { u.workflow with edges } })
    (normalizeEdges_idem u.workflow.edges (u.schemaVersion = 1))

/-- The legacy flag is computed from the same version. -/
theorem legacy_eq {u : WorkflowBundle} {b : Bundle} (h : SameEdges u b) :
    decide (b.schemaVersion = legacySchemaVersion) = decide (u.schemaVersion = 1) := by
  rw [decide_eq_decide, ← h.schemaVersion, ← Int64.toInt_inj]
  rfl

/-- Which versions the runner takes. -/
theorem version_eq {u : WorkflowBundle} {b : Bundle} (h : SameEdges u b) :
    (b.schemaVersion = legacySchemaVersion || b.schemaVersion = TokyoTester.schemaVersion) = true ↔
      u.schemaVersion = 1 ∨ u.schemaVersion = 2 := by
  rw [Bool.or_eq_true, decide_eq_true_eq, decide_eq_true_eq, ← h.schemaVersion, ← Int64.toInt_inj,
    ← Int64.toInt_inj]
  rfl

/-- What `normalize` makes of a bundle with the edges of the UI's. -/
theorem normalize_eq_ok {u : WorkflowBundle} {b : Bundle} (h : SameEdges u b)
    (hversion : u.schemaVersion = 1 ∨ u.schemaVersion = 2) (b' : Bundle) :
    b.normalize = .ok b' ↔ (∀ edge ∈ u.workflow.edges, checkEdge edge = .ok ()) ∧
      b' = { b with
        schemaVersion := TokyoTester.schemaVersion
        workflow := { b.workflow with
          edges := some ((normalizeEdges u.workflow.edges (u.schemaVersion = 1)).map
            FlowEdge.decoded) } } := by
  unfold Bundle.normalize
  rw [ensure_bind_eq_ok, version_eq h, h.edges]
  dsimp only
  rw [bind_eq_ok, legacy_eq h]
  constructor
  · rintro ⟨-, edges, hedges, hb'⟩
    obtain ⟨result, hresult, rfl⟩ := map_eq_ok.1 hedges
    obtain ⟨hchecks, rfl⟩ := (mapM_normalizeEdge _ _ result).1 hresult
    exact ⟨hchecks, (Except.ok.inj hb').symm⟩
  · rintro ⟨hchecks, rfl⟩
    exact ⟨hversion, _, map_eq_ok.2 ⟨_, (mapM_normalizeEdge _ _ _).2 ⟨hchecks, rfl⟩, rfl⟩, rfl⟩

theorem sameEdges_normalize {u : WorkflowBundle} {b b' : Bundle} (h : SameEdges u b)
    (hversion : u.schemaVersion = 1 ∨ u.schemaVersion = 2) (hb' : b.normalize = .ok b') :
    SameEdges (normalizeWorkflowBundle u) b' := by
  obtain ⟨-, rfl⟩ := (normalize_eq_ok h hversion b').1 hb'
  exact ⟨rfl, rfl⟩

/-- A bundle that the UI has normalised passes its checks. -/
theorem checkEdge_normalizeEdge (edge : FlowEdge) (legacy : Bool) :
    checkEdge (normalizeEdge edge legacy) = .ok () := by
  obtain ⟨data, hdata, hnormal⟩ := normalized_normalizeEdge edge legacy
  obtain ⟨relation, hrelation, hrelationEq⟩ := hnormal.relation
  obtain ⟨readiness, hreadiness, hreadinessEq⟩ := hnormal.readiness
  rw [checkEdge_eq_ok, hdata]
  simp [hrelationEq, hreadinessEq, hrelation, hreadiness]

/-- Normalising again changes nothing. -/
theorem normalize_idem {u : WorkflowBundle} {b b' : Bundle} (h : SameEdges u b)
    (hversion : u.schemaVersion = 1 ∨ u.schemaVersion = 2) (hb' : b.normalize = .ok b') :
    b'.normalize = .ok b' := by
  have hsame := sameEdges_normalize h hversion hb'
  refine (normalize_eq_ok hsame (.inr rfl) b').2 ⟨fun edge hedge => ?_, ?_⟩
  · have hnormal : edge ∈ normalizeEdges u.workflow.edges (u.schemaVersion = 1) := hedge
    rw [normalizeEdges_eq_map] at hnormal
    obtain ⟨original, -, rfl⟩ := List.mem_map.1 hnormal
    exact checkEdge_normalizeEdge _ _
  · obtain ⟨-, rfl⟩ := (normalize_eq_ok h hversion b').1 hb'
    have hedges : normalizeEdges (normalizeWorkflowBundle u).workflow.edges
        ((normalizeWorkflowBundle u).schemaVersion = 1) =
          (normalizeWorkflowBundle u).workflow.edges :=
      congrArg (·.workflow.edges) (normalizeWorkflowBundle_idem u)
    rw [hedges]
    rfl

/-- **Migration of edges.** On a bundle of either version the runner normalises exactly when the
    checks of the UI pass; then every edge says the same on both sides, and neither side changes
    its result when it normalises it again. -/
theorem edge_migration_agrees {u : WorkflowBundle} {b : Bundle} (h : SameEdges u b)
    (hversion : u.schemaVersion = 1 ∨ u.schemaVersion = 2) :
    ((∃ b', b.normalize = .ok b') ↔ u.workflow.edges.forM checkEdge = .ok ()) ∧
    (∀ b', b.normalize = .ok b' →
      SameEdges (normalizeWorkflowBundle u) b' ∧
      List.Forall₂ SaysTheSame (normalizeWorkflowBundle u).workflow.edges
        (b'.workflow.edges.getD []) ∧
      b'.normalize = .ok b') ∧
    normalizeWorkflowBundle (normalizeWorkflowBundle u) = normalizeWorkflowBundle u := by
  refine ⟨?_, fun b' hb' => ⟨sameEdges_normalize h hversion hb', ?_, normalize_idem h hversion hb'⟩,
    normalizeWorkflowBundle_idem u⟩
  · rw [forM_eq_ok]
    constructor
    · rintro ⟨b', hb'⟩
      exact ((normalize_eq_ok h hversion b').1 hb').1
    · exact fun hchecks => ⟨_, (normalize_eq_ok h hversion _).2 ⟨hchecks, rfl⟩⟩
  · obtain ⟨-, rfl⟩ := (normalize_eq_ok h hversion b').1 hb'
    exact forall₂_saysTheSame _ _

/-- A legacy bundle: an edge without data, one with part of it and one with all of it. -/
def legacyEdges : List FlowEdge :=
  [{ id := "a", source := "web", target := "db" },
    { id := "b", source := "web", target := "db", data := some { relation := some "writes" } },
    { id := "c", source := "db", target := "web"
      data := some { relation := some "reads", readiness := some "target_requires_source" } }]

def legacyBundle : WorkflowBundle where
  schemaVersion := 1
  kind := workflowBundleKind
  workflow := { name := "Shop", nodes := [], edges := legacyEdges }
  scenarios := []

def decodedLegacyBundle : Bundle where
  schemaVersion := 1
  kind := bundleKind
  workflow := { name := "Shop", edges := some (legacyEdges.map FlowEdge.decoded) }
  scenarios := []

theorem edge_migration_agrees_legacy :
    ∃ b', decodedLegacyBundle.normalize = .ok b' ∧
      SameEdges (normalizeWorkflowBundle legacyBundle) b' ∧ b'.normalize = .ok b' := by
  have hsame : SameEdges legacyBundle decodedLegacyBundle := ⟨by decide, rfl⟩
  obtain ⟨hok, hresult, -⟩ := edge_migration_agrees hsame (.inl rfl)
  obtain ⟨b', hb'⟩ := hok.2 (by decide)
  exact ⟨b', hb', (hresult b' hb').1, (hresult b' hb').2.2⟩

end Ui

end TokyoTester
