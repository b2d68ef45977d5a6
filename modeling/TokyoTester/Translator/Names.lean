import TokyoTester.Bundle.Names

set_option autoImplicit false

/-! # Service names in the UI (`modules/utils/scenario-translator.ts`)

The UI translates a workflow before it submits it, and the runner translates it again. Both name a
service by sanitising its label. The UI does it with three regular expressions, the runner with a
loop over the characters; here the two are compared, label by label and by what their validators
say about the target services of a test. -/

namespace TokyoTester

namespace Translator

/-- `toLowerCase` on a character, as far as the result is ASCII. -/
def lowerCaseChar (c : Char) : List Char :=
  if c.toNat = 0x130 then ['i', '\u0307'] else [Text.lowerChar c]

/-- The character class `[a-z0-9_-]`. -/
def keptChar (c : Char) : Prop := ('a' ≤ c ∧ c ≤ 'z') ∨ ('0' ≤ c ∧ c ≤ '9') ∨ c = '_' ∨ c = '-'

instance (c : Char) : Decidable (keptChar c) := by unfold keptChar; infer_instance

/-- `sanitizeName`. -/
def sanitizeName (label : String) : String :=
  let replaced := (label.toList.flatMap lowerCaseChar).map fun c => if keptChar c then c else '_'
  String.ofList (Text.trimOne '_' (Text.collapse '_' false replaced))

/-- `TranslationError`, of a scenario. -/
structure TranslationError where
  message : String
  field : String := ""
deriving DecidableEq, Repr

/-- The names of the services of a `WorkflowServiceGraph`, but for their order. -/
def serviceNames (nodes : List FlowNode) : List String :=
  nodes.map fun node => sanitizeName node.data.label

/-- The part of `validateScenario` about the target services of a test. -/
def targetErrors (nodeNames : List String) (id name : String) (targetServices : List String) :
    List TranslationError :=
  if targetServices.isEmpty then
    [{ message := "Scenario test \"" ++ name ++ "\" must target at least one service"
       field := "tests." ++ id ++ ".targetServices" }]
  else
    (targetServices.filter fun serviceName => !nodeNames.contains serviceName).map
      fun serviceName =>
        { message := "Scenario test \"" ++ name ++ "\" references unknown service \"" ++
            serviceName ++ "\""
          field := "tests." ++ id ++ ".targetServices" }

theorem targetErrors_eq_nil {nodeNames : List String} {id name : String}
    {targetServices : List String} :
    targetErrors nodeNames id name targetServices = [] ↔
      targetServices ≠ [] ∧ ∀ target ∈ targetServices, target ∈ nodeNames := by
  unfold targetErrors
  split_ifs with hempty
  · simp [List.isEmpty_iff.1 hempty]
  · simp [List.isEmpty_iff.not.1 hempty]

end Translator

open Text

/-! ## Labels -/

/-- What the runner makes of a character, on its own. -/
def runnerChar (c : Char) : Char :=
  let c := if lowerChar c = ' ' ∨ lowerChar c = '-' then '_' else lowerChar c
  if ('a' ≤ c ∧ c ≤ 'z') ∨ ('0' ≤ c ∧ c ≤ '9') ∨ c = '_' then c else '_'

/-- What the UI makes of an ASCII character, on its own. -/
def uiChar (c : Char) : Char := if Translator.keptChar (lowerChar c) then lowerChar c else '_'

theorem runnerChar_of_isSpace {c : Char} (hc : c.toNat < 128) :
    isSpace c = true → runnerChar c = '_' := by
  have h : ∀ n < 128, isSpace (Char.ofNat n) = true → runnerChar (Char.ofNat n) = '_' := by
    decide +kernel
  exact ascii_cases (P := fun c => isSpace c = true → runnerChar c = '_') h hc

/-- The hyphen is all that the two treat differently. -/
theorem runnerChar_eq_uiChar {c : Char} (hc : c.toNat < 128) :
    c ≠ '-' → runnerChar c = uiChar c := by
  have h : ∀ n < 128, Char.ofNat n ≠ '-' → runnerChar (Char.ofNat n) = uiChar (Char.ofNat n) := by
    decide +kernel
  exact ascii_cases (P := fun c => c ≠ '-' → runnerChar c = uiChar c) h hc

/-- The runner's name of an ASCII label. The blanks around the label would become underscores, and
    those are trimmed anyway. -/
theorem sanitizeName_eq {label : String} (h : IsAscii label) :
    sanitizeName label
      = String.ofList (trim (· = '_') (collapse '_' false (label.toList.map runnerChar))) := by
  have hblank : ∀ c ∈ label.toList, isSpace c = true →
      ((fun d : Char => decide (d = '_')) ∘ runnerChar) c = true := by
    intro c hc hspace
    simpa using runnerChar_of_isSpace (h c hc) hspace
  have hchars : sanitizeChars false ((toLower (trimSpace label)).toList.map fun c =>
        if c = ' ' ∨ c = '-' then '_' else c)
      = collapse '_' false ((trim isSpace label.toList).map runnerChar) := by
    rw [sanitizeChars_eq_collapse, toList_toLower_trimSpace, List.map_map, List.map_map]
    rfl
  unfold sanitizeName
  dsimp only
  rw [hchars, trim_collapse, trim_collapse, trim_map, trim_map, trim_trim hblank]

/-- The UI's name of an ASCII label. -/
theorem Translator.sanitizeName_eq {label : String} (h : IsAscii label) :
    Translator.sanitizeName label
      = String.ofList (trim (· = '_') (collapse '_' false (label.toList.map uiChar))) := by
  have hlower : label.toList.flatMap lowerCaseChar = label.toList.map lowerChar := by
    rw [List.map_eq_flatMap]
    refine List.flatMap_congr fun c hc => ?_
    have : c.toNat ≠ 0x130 := by
      have := h c hc
      omega
    rw [lowerCaseChar, if_neg this]
  unfold Translator.sanitizeName
  dsimp only
  rw [hlower, List.map_map, trimOne_eq_trim (separated_collapse false).1]
  rfl

/-- A hyphen stays in the UI's name. -/
theorem Translator.hyphen_mem_sanitizeName {label : String} (h : '-' ∈ label.toList) :
    '-' ∈ (Translator.sanitizeName label).toList := by
  unfold Translator.sanitizeName
  rw [String.toList_ofList, mem_trimOne (by decide), mem_collapse (by decide), List.mem_map]
  refine ⟨'-', List.mem_flatMap.2 ⟨'-', h, ?_⟩, by decide⟩
  decide +kernel

theorem hyphen_not_mem_sanitizeName (label : String) : '-' ∉ (sanitizeName label).toList := by
  intro h
  have := nameChar_of_mem_sanitizeName h
  unfold nameChar at this
  revert this
  decide

/-- **The two sanitisers agree on a label exactly when it has no hyphen.** -/
theorem Translator.sanitizeName_eq_iff {label : String} (h : IsAscii label) :
    Translator.sanitizeName label = TokyoTester.sanitizeName label ↔ '-' ∉ label.toList := by
  constructor
  · intro heq hmem
    exact hyphen_not_mem_sanitizeName label (heq ▸ Translator.hyphen_mem_sanitizeName hmem)
  · intro hmem
    rw [Translator.sanitizeName_eq h, TokyoTester.sanitizeName_eq h]
    have hchars : label.toList.map uiChar = label.toList.map runnerChar := by
      refine List.map_congr_left fun c hc => (runnerChar_eq_uiChar (h c hc) ?_).symm
      rintro rfl
      exact hmem hc
    rw [hchars]

/-! ## Target services -/

/-- What the validator of the runner accepts as the target services of a test. -/
theorem validateTargets_eq_ok {test : ScenarioTestDefinition} {services : List String} :
    ∀ {seen targets : List String}, validateTargets test services seen targets = .ok () ↔
      targets.Nodup ∧ ∀ target ∈ targets,
        nonBlank target = true ∧ target ∉ seen ∧ target ∈ services := by
  intro seen targets
  induction targets generalizing seen with
  | nil => simp [validateTargets]
  | cons target rest ih =>
      simp only [validateTargets, ensure_bind_eq_ok, ih, List.nodup_cons, List.mem_cons,
        Bool.not_eq_true', List.contains_eq_mem, decide_eq_false_iff_not, decide_eq_true_eq,
        forall_eq_or_imp, not_or]
      constructor
      · rintro ⟨hblank, hseen, hservice, hnodup, hrest⟩
        exact ⟨⟨fun hmem => (hrest target hmem).2.1.1 rfl, hnodup⟩, ⟨hblank, hseen, hservice⟩,
          fun t ht => ⟨(hrest t ht).1, (hrest t ht).2.1.2, (hrest t ht).2.2⟩⟩
      · rintro ⟨⟨hmem, hnodup⟩, ⟨hblank, hseen, hservice⟩, hrest⟩
        refine ⟨hblank, hseen, hservice, hnodup, fun t ht => ⟨(hrest t ht).1, ⟨?_, (hrest t ht).2.1⟩,
          (hrest t ht).2.2⟩⟩
        rintro rfl
        exact hmem ht

theorem mem_services_iff {nodes : List FlowNode} {edges : List FlowEdge} {name : String} :
    name ∈ (translateWorkflowGraphToServiceGraph nodes edges).services.map (·.name) ↔
      ∃ node ∈ nodes, sanitizeName node.data.label = name := by
  rw [(map_name_services nodes edges).mem_iff, List.mem_map]
  rfl

/-- The target services of a test that the UI's validator accepts in a workflow, the runner's accepts
    under the same names. -/
def TargetsAgree (nodes : List FlowNode) (edges : List FlowEdge) (test : ScenarioTestDefinition) :
    Prop :=
  Translator.targetErrors (Translator.serviceNames nodes) test.id test.name
      test.targetServices = [] →
    validateTargets test
      ((translateWorkflowGraphToServiceGraph nodes edges).services.map (·.name)) []
      test.targetServices = .ok ()

/-- No target is named twice, is blank or has a hyphen. -/
def DistinctTargets (test : ScenarioTestDefinition) : Prop :=
  test.targetServices.Nodup ∧
    ∀ target ∈ test.targetServices, nonBlank target = true ∧ '-' ∉ target.toList

theorem targetsAgree_iff {nodes : List FlowNode} {edges : List FlowEdge}
    {test : ScenarioTestDefinition} (h : ∀ node ∈ nodes, IsAscii node.data.label) :
    TargetsAgree nodes edges test ↔
      (Translator.targetErrors (Translator.serviceNames nodes) test.id test.name
        test.targetServices = [] → DistinctTargets test) := by
  refine forall_congr' fun herrors => ?_
  have hknown := (Translator.targetErrors_eq_nil.1 herrors).2
  constructor
  · intro hok
    obtain ⟨hnodup, htargets⟩ := validateTargets_eq_ok.1 hok
    refine ⟨hnodup, fun target ht => ⟨(htargets target ht).1, ?_⟩⟩
    obtain ⟨node, -, rfl⟩ := mem_services_iff.1 (htargets target ht).2.2
    exact hyphen_not_mem_sanitizeName node.data.label
  · rintro ⟨hnodup, htargets⟩
    refine validateTargets_eq_ok.2 ⟨hnodup, fun target ht => ⟨(htargets target ht).1, by simp, ?_⟩⟩
    -- a name without a hyphen is that of a label without one
    obtain ⟨node, hnode, rfl⟩ := List.mem_map.1 (hknown target ht)
    have hhyphen : '-' ∉ node.data.label.toList := fun hmem =>
      (htargets _ ht).2 (Translator.hyphen_mem_sanitizeName hmem)
    exact mem_services_iff.2 ⟨node, hnode,
      ((Translator.sanitizeName_eq_iff (h node hnode)).2 hhyphen).symm⟩

/-- **The two sanitisers agree on a label exactly when it has no hyphen, and the two validators on
    the target services of a test exactly when they are distinct, not blank and have none.** -/
theorem sanitisers_agree_iff (label : String) (nodes : List FlowNode) (edges : List FlowEdge)
    (test : ScenarioTestDefinition) (hlabel : IsAscii label)
    (hnodes : ∀ node ∈ nodes, IsAscii node.data.label) :
    (Translator.sanitizeName label = sanitizeName label ↔ '-' ∉ label.toList) ∧
    (TargetsAgree nodes edges test ↔
      (Translator.targetErrors (Translator.serviceNames nodes) test.id test.name
        test.targetServices = [] → DistinctTargets test)) :=
  ⟨Translator.sanitizeName_eq_iff hlabel, targetsAgree_iff hnodes⟩

/-- The node of a service whose label has no hyphen. -/
def orderNode : FlowNode := { id := "n1", data := { label := "Order API" } }

theorem sanitisers_agree_labelled :
    (Translator.sanitizeName " Order  API (v2)_" = sanitizeName " Order  API (v2)_" ↔
      '-' ∉ " Order  API (v2)_".toList) ∧
    (TargetsAgree [orderNode] [] { targetServices := ["order_api"] } ↔
      (Translator.targetErrors (Translator.serviceNames [orderNode]) "" "" ["order_api"] = [] →
        DistinctTargets { targetServices := ["order_api"] })) :=
  sanitisers_agree_iff _ _ _ _ (isAscii_of_all (by decide +kernel))
    (List.forall_mem_singleton.2 (isAscii_of_all (by decide +kernel)))

/-- A label with a hyphen is named differently. -/
theorem sanitisers_differ_on_hyphen :
    ¬∀ label, IsAscii label → Translator.sanitizeName label = sanitizeName label := by
  intro h
  have hlabel := h "api-gateway" (isAscii_of_all (by decide +kernel))
  revert hlabel
  decide +kernel

end TokyoTester
