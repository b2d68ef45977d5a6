import TokyoTester.Bundle.Executable

set_option autoImplicit false

/-! # References to other services (`pkg/workflowbundle/bundle.go`)

The texts of a service refer to others by `${service.field}`. Validation checks that what is
referred to is ready first; the translation writes the service's own name in the place of whatever
name the author used. The two look the name up in the same table of aliases, but not in the same
way, and what they find need not be the same service. -/

namespace TokyoTester

open Graph Transaction

/-! ## Service names -/

/-- The characters of a service name. -/
def nameChar (c : Char) : Prop := ('a' ≤ c ∧ c ≤ 'z') ∨ ('0' ≤ c ∧ c ≤ '9') ∨ c = '_'

theorem nameChar_of_mem_sanitizeChars {c : Char} {cs : List Char} :
    ∀ {last : Bool}, c ∈ sanitizeChars last cs → nameChar c := by
  induction cs with
  | nil => simp [sanitizeChars]
  | cons d cs ih =>
      intro last h
      unfold sanitizeChars at h
      dsimp only at h
      by_cases hd : ('a' ≤ d ∧ d ≤ 'z') ∨ ('0' ≤ d ∧ d ≤ '9') ∨ d = '_'
      · rw [if_pos hd] at h
        split_ifs at h with h₁ h₂
        · exact ih h
        · rcases List.mem_cons.1 h with rfl | h
          · exact .inr (.inr rfl)
          · exact ih h
        · rcases List.mem_cons.1 h with rfl | h
          · exact hd
          · exact ih h
      · rw [if_neg hd, if_pos rfl] at h
        split_ifs at h with h₁
        · exact ih h
        · rcases List.mem_cons.1 h with rfl | h
          · exact .inr (.inr rfl)
          · exact ih h

theorem mem_of_mem_trim {p : Char → Bool} {c : Char} {cs : List Char} (h : c ∈ Text.trim p cs) :
    c ∈ cs := by
  have h₁ := List.mem_reverse.1 h
  have h₂ := (List.dropWhile_sublist p).mem h₁
  exact (List.dropWhile_sublist p).mem (List.mem_reverse.1 h₂)

theorem nameChar_of_mem_sanitizeName {label : String} {c : Char}
    (h : c ∈ (sanitizeName label).toList) : nameChar c := by
  unfold sanitizeName at h
  rw [String.toList_ofList] at h
  exact nameChar_of_mem_sanitizeChars (mem_of_mem_trim h)

/-! ## Aliases -/

/-- The name that `normalizeServiceReferences` writes for a token. -/
def translatedName (aliases : GoMap String) (token : String) : String :=
  (firstAlias aliases [token, Text.trimSpace token, Text.toLower token]).getD (sanitizeName token)

/-- The name that `validateRuntimeReferenceReadiness` checks for a token. -/
def checkedName (aliases : GoMap String) (token : String) : Option String :=
  firstAlias aliases [Text.trimSpace token, Text.toLower (Text.trimSpace token)]

section Aliases

variable {nodes : List FlowNode}

/-- What the aliases stand for are service names. -/
theorem get?_buildServiceAliasMap {key name : String}
    (h : (buildServiceAliasMap nodes).get? key = some name) :
    ∃ label, name = sanitizeName label := by
  obtain ⟨e, he, rfl⟩ := Option.map_eq_some_iff.1 h
  have hmem := GoMap.mem_ofList (List.mem_of_find?_eq_some he)
  obtain ⟨node, -, hmem⟩ := List.mem_flatMap.1 hmem
  obtain ⟨candidate, -, hmem⟩ := List.mem_flatMap.1 hmem
  refine ⟨firstNonBlank [node.data.label, node.id], ?_⟩
  simp only [List.mem_cons, List.not_mem_nil, or_false] at hmem
  rcases hmem with rfl | rfl
  · dsimp only
  · dsimp only

/-- What is written for a token is a service name. -/
theorem translatedName_eq_sanitizeName (token : String) :
    ∃ label, translatedName (buildServiceAliasMap nodes) token = sanitizeName label := by
  unfold translatedName
  cases hfound : firstAlias (buildServiceAliasMap nodes)
      [token, Text.trimSpace token, Text.toLower token] with
  | none => exact ⟨token, rfl⟩
  | some name =>
      have hne : name ≠ "" := by simpa using List.find?_some hfound
      obtain ⟨key, -, hkey⟩ := List.mem_map.1 (List.mem_of_find?_eq_some hfound)
      cases hget : (buildServiceAliasMap nodes).get? key with
      | none =>
          rw [hget] at hkey
          exact absurd hkey.symm hne
      | some name' =>
          obtain ⟨label, hlabel⟩ := get?_buildServiceAliasMap hget
          rw [hget] at hkey
          exact ⟨label, hkey.symm.trans hlabel⟩

theorem nameChar_of_mem_translatedName {token : String} {c : Char}
    (h : c ∈ (translatedName (buildServiceAliasMap nodes) token).toList) : nameChar c := by
  obtain ⟨label, hlabel⟩ : ∃ label,
      translatedName (buildServiceAliasMap nodes) token = sanitizeName label :=
    translatedName_eq_sanitizeName token
  rw [hlabel] at h
  exact nameChar_of_mem_sanitizeName h

end Aliases

/-! ## References in the translated texts -/

/-- The token of a reference that names a field. -/
def fieldToken (body : List Char) : Option String :=
  match Text.splitAt '.' body with
  | token :: _ :: _ => some (String.ofList token)
  | _ => none

/-- The tokens of the references in a text that name a field. -/
def referenceTokens (value : String) : List String :=
  (Text.references value.length value.toList).filterMap fieldToken

/-- A text refers to a service, as `resolveReference` reads it. -/
def RefersTo (value name : String) : Prop := name ∈ referenceTokens value

/-- The body of a reference after the translation. -/
def translatedBody (aliases : GoMap String) (body : List Char) : List Char :=
  match Text.splitAt '.' body with
  | token :: field :: fields =>
    (translatedName aliases (String.ofList token)).toList ++ '.' ::
      (Text.join "." ((field :: fields).map String.ofList)).toList
  | _ => body

theorem normalizeServiceReferences_eq (value : String) (aliases : GoMap String) :
    normalizeServiceReferences value aliases = String.ofList (Text.replaceReferences
      (fun body => '$' :: '\x7b' :: (translatedBody aliases body ++ ['\x7d']))
        value.length value.toList) := by
  unfold normalizeServiceReferences
  congr 2
  funext body
  unfold translatedBody translatedName
  cases Text.splitAt '.' body with
  | nil => rfl
  | cons token rest => cases rest <;> simp

section Translated

variable {nodes : List FlowNode}

theorem rewrites_translatedBody : Text.Rewrites
    (fun body => '$' :: '\x7b' :: (translatedBody (buildServiceAliasMap nodes) body ++ ['\x7d']))
    (translatedBody (buildServiceAliasMap nodes)) := by
  intro body hbody hmem
  refine ⟨?_, ?_, rfl⟩
  · unfold translatedBody
    split <;> simp [hbody]
  · unfold translatedBody
    split
    · rename_i token field fields hsplit
      intro h
      rcases List.mem_append.1 h with h | h
      · have := nameChar_of_mem_translatedName h
        exact absurd this (by unfold nameChar; decide)
      · -- the fields are copied from the body
        refine hmem ?_
        rw [Text.eq_of_splitAt hsplit]
        rw [Text.join, String.toList_intercalate, List.map_map] at h
        exact List.mem_append.2 (.inr (by simpa using h))
    · exact hmem

theorem fieldToken_translatedBody (body : List Char) :
    fieldToken (translatedBody (buildServiceAliasMap nodes) body)
      = (fieldToken body).map (translatedName (buildServiceAliasMap nodes)) := by
  cases hsplit : Text.splitAt '.' body with
  | nil => simp [fieldToken, translatedBody, hsplit]
  | cons token rest =>
      cases rest with
      | nil => simp [fieldToken, translatedBody, hsplit]
      | cons field fields =>
          have hdot : '.' ∉ (translatedName (buildServiceAliasMap nodes)
              (String.ofList token)).toList := fun h =>
            absurd (nameChar_of_mem_translatedName h) (by unfold nameChar; decide)
          simp only [fieldToken, translatedBody, hsplit, Text.splitAt_append hdot]
          obtain ⟨piece, pieces, hpieces⟩ := List.exists_cons_of_ne_nil
            (List.splitOn_ne_nil '.' (Text.join "." ((field :: fields).map String.ofList)).toList)
          simp only [Text.splitAt_eq_splitOn, hpieces, String.ofList_toList, Option.map_some]

/-- **A translated text refers to what is written for the tokens of the text.** -/
theorem referenceTokens_normalizeServiceReferences (value : String) :
    referenceTokens (normalizeServiceReferences value (buildServiceAliasMap nodes))
      = (referenceTokens value).map (translatedName (buildServiceAliasMap nodes)) := by
  rw [normalizeServiceReferences_eq]
  unfold referenceTokens
  rw [String.toList_ofList, Text.references_replaceReferences rewrites_translatedBody value.length
    value.toList String.length_toList.le _ (by rw [String.length_ofList]), List.filterMap_map,
    List.map_filterMap]
  exact List.filterMap_congr fun body _ => fieldToken_translatedBody body

end Translated

/-! ## The check -/

/-- The texts of a service that may refer to others. -/
def FlowNode.texts (node : FlowNode) : List String :=
  node.data.service.command ++ node.data.service.env.map (·.value) ++
    node.data.service.initScripts.map (·.script)

/-- The names that the check looks up. -/
theorem filterMap_checkedName (aliases : GoMap String) (bodies : List (List Char)) :
    (bodies.filterMap fun body => match Text.splitAt '.' body with
        | token :: _ :: _ =>
          let token := Text.trimSpace (String.ofList token)
          firstAlias aliases [token, Text.toLower token]
        | _ => none)
      = (bodies.filterMap fieldToken).filterMap (checkedName aliases) := by
  rw [List.filterMap_filterMap]
  refine List.filterMap_congr fun body _ => ?_
  unfold fieldToken checkedName
  cases Text.splitAt '.' body with
  | nil => rfl
  | cons token rest => cases rest <;> rfl

/-- **What the check has found**: the name that it looks up for a token is that of the service
    itself, or of one that is ready first. -/
theorem checkReferences_ok {aliases : GoMap String} {graph : ServiceDeps} {node : FlowNode}
    (h : checkReferences aliases graph node = .ok ()) {value token name : String}
    (hvalue : value ∈ node.texts) (htoken : token ∈ referenceTokens value)
    (hname : checkedName aliases token = some name) :
    name = node.serviceName ∨ Needs graph node.serviceName name := by
  unfold checkReferences at h
  dsimp only at h
  split at h
  · cases h
  · rename_i hnone
    have hlookup : name ∈ (referenceTokens value).filterMap (checkedName aliases) :=
      List.mem_filterMap.2 ⟨token, htoken, hname⟩
    rw [referenceTokens, ← filterMap_checkedName] at hlookup
    have hpassed := List.find?_eq_none.1 hnone name (List.mem_flatMap.2 ⟨value, hvalue, hlookup⟩)
    rw [← mem_reachable_iff]
    simp only [Bool.and_eq_true, decide_eq_true_eq, Bool.not_eq_true', not_and,
      Bool.not_eq_false, List.contains_iff_mem] at hpassed
    exact or_iff_not_imp_left.2 hpassed

theorem validateRuntimeReferenceReadiness_ok {nodes : List FlowNode} {graph : ServiceDeps}
    (h : validateRuntimeReferenceReadiness nodes graph = .ok ()) {node : FlowNode}
    (hnode : node ∈ nodes) : checkReferences (buildServiceAliasMap nodes) graph node = .ok () := by
  exact forM_eq_ok.1 h node hnode

/-! ## Levels -/

/-- Wherever the first service is provisioned, the second one is in an earlier level: in every
    scenario, and however the orchestrator ranges over its graph. -/
def Bundle.ProvisionedBefore (b : Bundle) (later earlier : String) : Prop :=
  ∀ scenario ∈ b.scenarios, ∀ r, b.translateScenario scenario = .ok r →
    ∀ range : Nat → List String, (∀ k, (range k).Perm (dependencyGraph r.services).keys) →
      ∀ levels, topologicalSort (dependencyGraph r.services) range = .ok levels →
        ∀ (j : Nat) level, levels[j]? = some level → later ∈ level →
          ∃ i < j, ∃ level', levels[i]? = some level' ∧ earlier ∈ level'

theorem translateScenario_services {b : Bundle} {scenario : BundleScenario} {r : TranslationResult}
    (h : b.translateScenario scenario = .ok r) : r.services = scenarioServices b scenario := by
  obtain ⟨-, -, h⟩ := bind_eq_ok.1 h
  exact (congrArg TranslationResult.services (Except.ok.inj h)).symm

/-- **What a service requires is provisioned before it.** -/
theorem provisionedBefore_of_requires {b : Bundle}
    (hgraph : GraphValid b.workflow.nodes (b.workflow.edges.getD []))
    (hscenarios : ∀ scenario ∈ b.scenarios, validateScenario b.serviceGraph scenario 0 = .ok ())
    {later earlier : String} (h : Relation.TransGen b.Requires later earlier) :
    b.ProvisionedBefore later earlier := by
  intro scenario hscenario r hr range hrange levels hlevels
  have hvalid := validateScenario_ok (hscenarios scenario hscenario)
  rw [translateScenario_services hr] at hrange hlevels
  obtain ⟨levels', hlevels', hleveled, hperm⟩ := scenarioServices_sort hgraph hvalid hrange
  obtain rfl : levels' = levels := Except.ok.inj (hlevels'.symm.trans hlevels)
  -- one requirement goes down at least one level
  have hstep : ∀ {a c : String}, b.Requires a c → ∀ (j : Nat) level,
      levels'[j]? = some level → a ∈ level →
      ∃ i < j, ∃ level', levels'[i]? = some level' ∧ c ∈ level' := by
    intro a c hac j level hj ha
    have hkey : a ∈ (dependencyGraph (scenarioServices b scenario)).keys :=
      hperm.mem_iff.1 (List.mem_flatten.2 ⟨level, List.mem_of_getElem? hj, ha⟩)
    have hdep : c ∈ prerequisites (dependencyGraph (scenarioServices b scenario)) a := by
      rw [prerequisites_dependencyGraph hgraph (mem_keys_dependencyGraph.1 hkey),
        mem_prerequisites_iff hgraph.valid.ids]
      exact hac
    rcases hleveled.earlier hdep hj ha with hdone | hearlier
    · simp at hdone
    · exact hearlier
  intro j level hj ha
  induction h with
  | single hac => exact hstep hac j level hj ha
  | tail _ hcd ih =>
      obtain ⟨i, hi, level', hi', hc⟩ := ih
      obtain ⟨k, hk, level'', hk', hd⟩ := hstep hcd i level' hi' hc
      exact ⟨k, hk.trans hi, level'', hk', hd⟩

/-! ## Soundness -/

/-- The aliases of a bundle's services. -/
def Bundle.aliases (b : Bundle) : GoMap String := buildServiceAliasMap b.workflow.nodes

/-- References are sound: another service that a translated text refers to is required, and so
    provisioned first. -/
def Bundle.ReferencesReady (b : Bundle) : Prop :=
  ∀ node ∈ b.workflow.nodes, ∀ value ∈ node.texts, ∀ other ∈ b.workflow.nodes,
    other.serviceName ≠ node.serviceName →
      RefersTo (normalizeServiceReferences value b.aliases) other.serviceName →
        Relation.TransGen b.Requires node.serviceName other.serviceName ∧
          b.ProvisionedBefore node.serviceName other.serviceName

/-- A token that the check looks up otherwise than the translation: the check finds nothing, or
    not what is written. -/
def Bundle.Unchecked (b : Bundle) (token : String) : Prop :=
  checkedName b.aliases token ≠ some (translatedName b.aliases token)

/-- **Runtime references are sound exactly when** each token that is not checked as it is translated
    is written as the name of the service itself, of no service, or of one that is required
    anyway. -/
theorem runtime_references_sound_iff {b b' : Bundle} (h : b.validate = .ok b') :
    b'.ReferencesReady ↔
      ∀ node ∈ b'.workflow.nodes, ∀ value ∈ node.texts, ∀ token ∈ referenceTokens value,
        b'.Unchecked token → ∀ other ∈ b'.workflow.nodes,
          other.serviceName = translatedName b'.aliases token →
            other = node ∨ Relation.TransGen b'.Requires node.serviceName other.serviceName := by
  obtain ⟨hgraph, hscenarios⟩ := Bundle.validate_ok h
  constructor
  · intro hready node hnode value hvalue token htoken _ other hother hname
    by_cases hsame : other.serviceName = node.serviceName
    · exact .inl (List.inj_on_of_nodup_map hgraph.valid.names hother hnode hsame)
    · refine .inr (hready node hnode value hvalue other hother hsame ?_).1
      unfold RefersTo Bundle.aliases
      rw [referenceTokens_normalizeServiceReferences]
      exact List.mem_map.2 ⟨token, htoken, hname.symm⟩
  · intro hunchecked node hnode value hvalue other hother hne hrefers
    unfold RefersTo Bundle.aliases at hrefers
    rw [referenceTokens_normalizeServiceReferences] at hrefers
    obtain ⟨token, htoken, hname⟩ := List.mem_map.1 hrefers
    suffices hrequires : Relation.TransGen b'.Requires node.serviceName other.serviceName from
      ⟨hrequires, provisionedBefore_of_requires hgraph hscenarios hrequires⟩
    by_cases hchecked : b'.Unchecked token
    · rcases hunchecked node hnode value hvalue token htoken hchecked other hother hname.symm with
        rfl | hrequires
      · exact absurd rfl hne
      · exact hrequires
    · -- the check looked up the very name that is written
      have hpassed := checkReferences_ok
        (validateRuntimeReferenceReadiness_ok hgraph.references hnode) hvalue htoken
        (not_not.1 hchecked)
      rw [Needs, edge_eq_requires hgraph.valid.ids] at hpassed
      rcases hpassed with hself | hrequires
      · exact absurd (hname.symm.trans hself) hne
      · rw [← hname]
        exact hrequires

/-- A bundle in its present form passes as it is. -/
theorem validate_eq_self {b : Bundle} (hnormal : b.normalize = .ok b) (h : b.check.isOk = true) :
    b.validate = .ok b := by
  have hcheck : b.check = .ok () := by
    cases hresult : b.check with
    | error e =>
        rw [hresult] at h
        cases h
    | ok u => rfl
  unfold Bundle.validate
  rw [hnormal]
  show (b.check >>= fun _ => Except.ok b) = _
  rw [hcheck]
  rfl

/-- An api with a variable that refers to a database, and the edges between the two. -/
def referringBundle (reference : String) (edges : List FlowEdge) : Bundle :=
  { schemaVersion := 2
    kind := "cots.workflow-bundle"
    workflow :=
      { name := "shop"
        nodes :=
          [{ id := "n1", data := { label := "api", service :=
              { type := "generic", image := "api"
                env := [{ key := "DB_HOST", value := reference }] } } },
            { id := "n2", data := { label := "my service", service := { type := "postgres" } } }]
        edges := some edges }
    scenarios :=
      [{ name := "smoke"
         tests :=
          [{ id := "t1", name := "list", type := "shell", targetServices := ["api"]
             shellConfig := some { command := "ls" } }]
         testOrder := ["t1"] }] }

/-- The edge from the api to the database. -/
def readsDatabase : FlowEdge :=
  { id := "e1", source := "n1", target := "n2"
    data := some { relation := "reads", readiness := "source_requires_target" } }

/-- A reference by the label, with the edge that it needs: what is checked is what is written. -/
theorem runtime_references_sound_labelled :
    (referringBundle "$\x7bMy Service.host\x7d" [readsDatabase]).validate
        = .ok (referringBundle "$\x7bMy Service.host\x7d" [readsDatabase]) ∧
      (referringBundle "$\x7bMy Service.host\x7d" [readsDatabase]).ReferencesReady := by
  have hvalid : (referringBundle "$\x7bMy Service.host\x7d" [readsDatabase]).validate = .ok _ :=
    validate_eq_self rfl (by decide +kernel)
  refine ⟨hvalid, (runtime_references_sound_iff hvalid).2 ?_⟩
  have hchecked : ∀ node ∈ (referringBundle "$\x7bMy Service.host\x7d" []).workflow.nodes,
      ∀ value ∈ node.texts, ∀ token ∈ referenceTokens value,
        checkedName (referringBundle "$\x7bMy Service.host\x7d" []).aliases token
          = some (translatedName (referringBundle "$\x7bMy Service.host\x7d" []).aliases token) := by
    decide +kernel
  intro node hnode value hvalue token htoken hunchecked
  exact absurd (hchecked node hnode value hvalue token htoken) hunchecked

/-- **An unchecked reference**: with a dash the name is no alias, so nothing is checked; but what is
    written for it is the name of the service. The service is not required, and not even
    provisioned. -/
theorem runtime_references_unchecked :
    ∃ b', (referringBundle "$\x7bMy-Service.host\x7d" []).validate = .ok b' ∧
      ¬b'.ReferencesReady := by
  refine ⟨_, validate_eq_self rfl (by decide +kernel), fun hready => ?_⟩
  have hrequires := (hready _ List.mem_cons_self "$\x7bMy-Service.host\x7d" (by decide +kernel) _
    (List.mem_cons_of_mem _ List.mem_cons_self) (by decide +kernel)
    (by unfold RefersTo; decide +kernel)).1
  -- there is no edge
  obtain ⟨c, ⟨edge, hedge, -⟩, -⟩ := Relation.TransGen.head'_iff.1 hrequires
  exact absurd hedge List.not_mem_nil

end TokyoTester
