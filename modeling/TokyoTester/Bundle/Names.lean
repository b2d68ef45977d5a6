import TokyoTester.Bundle.References

set_option autoImplicit false

/-! # Service names (`SanitizeName`, `pkg/workflowbundle/bundle.go`)

A service name is what is left of a label when its letters are lower-cased, all but ASCII letters
and digits are underscores, and underscores stand single and between other characters. Such a text
is its own service name. The aliases of a bundle have an entry for every spelling of a node's label
and id, a later node's over an earlier one's: a name stands for its own service unless another node
is spelled like it. -/

namespace TokyoTester

open Text

/-! ## Normal names -/

/-- The texts that are service names. -/
structure NormalName (name : String) : Prop where
  chars : ∀ c ∈ name.toList, nameChar c
  leading : name.toList.head? ≠ some '_'
  trailing : name.toList.getLast? ≠ some '_'
  single : Separated '_' name.toList

theorem sanitizeChars_eq_collapse (cs : List Char) : ∀ (last : Bool),
    sanitizeChars last cs = collapse '_' last
      (cs.map fun c => if ('a' ≤ c ∧ c ≤ 'z') ∨ ('0' ≤ c ∧ c ≤ '9') ∨ c = '_' then c else '_') := by
  induction cs with
  | nil => exact fun _ => rfl
  | cons c cs ih =>
      intro last
      simp only [sanitizeChars, List.map_cons, collapse, ih]

theorem toList_toLower_trimSpace (s : String) :
    (toLower (trimSpace s)).toList = (trim isSpace s.toList).map lowerChar := by
  simp [toLower, trimSpace]

/-- **Every service name is normal.** -/
theorem normalName_sanitizeName (label : String) : NormalName (sanitizeName label) where
  chars := fun c hc => nameChar_of_mem_sanitizeName hc
  leading := by
    rw [sanitizeName, String.toList_ofList]
    exact head?_trim_ne (by simp)
  trailing := by
    rw [sanitizeName, String.toList_ofList]
    exact getLast?_trim_ne (by simp)
  single := by
    rw [sanitizeName, String.toList_ofList, sanitizeChars_eq_collapse, trim_collapse]
    exact (separated_collapse false).1

/-- A character of a name is neither a blank nor an upper-case letter. -/
theorem nameChar_cases {P : Char → Prop} (h : ∀ n < 128, nameChar (Char.ofNat n) → P (Char.ofNat n))
    {c : Char} (hc : nameChar c) : P c := by
  have hascii : c.toNat < 128 := by
    rcases hc with ⟨-, hz⟩ | ⟨-, h9⟩ | rfl
    · exact lt_of_le_of_lt hz (by decide)
    · exact lt_of_le_of_lt h9 (by decide)
    · decide
  exact ascii_cases (P := fun c => nameChar c → P c) h hascii hc

instance (c : Char) : Decidable (nameChar c) := by
  unfold nameChar
  infer_instance

section Normal

variable {name : String}

theorem NormalName.trimSpace_eq (h : NormalName name) : trimSpace name = name := by
  have hspace : ∀ c ∈ name.toList, isSpace c = false := fun c hc =>
    nameChar_cases (P := fun c => isSpace c = false) (by decide +kernel) (h.chars c hc)
  rw [trimSpace, trim_eq_self (fun c hc => hspace c (List.mem_of_mem_head? hc))
    (fun c hc => hspace c (List.mem_of_getLast? hc)), String.ofList_toList]

theorem NormalName.toLower_eq (h : NormalName name) : toLower name = name := by
  have hlower : ∀ c ∈ name.toList, lowerChar c = c := fun c hc =>
    nameChar_cases (P := fun c => lowerChar c = c) (by decide +kernel) (h.chars c hc)
  rw [toLower, List.map_congr_left hlower, List.map_id', String.ofList_toList]

/-- **A normal text is its own name.** -/
theorem NormalName.sanitizeName_eq (h : NormalName name) : sanitizeName name = name := by
  have hkept : ∀ c ∈ name.toList, (if c = ' ' ∨ c = '-' then '_' else c) = c := fun c hc =>
    nameChar_cases (P := fun c => (if c = ' ' ∨ c = '-' then '_' else c) = c) (by decide +kernel)
      (h.chars c hc)
  have hallowed : ∀ c ∈ name.toList,
      (if ('a' ≤ c ∧ c ≤ 'z') ∨ ('0' ≤ c ∧ c ≤ '9') ∨ c = '_' then c else '_') = c :=
    fun c hc => if_pos (h.chars c hc)
  unfold sanitizeName
  dsimp only
  rw [h.trimSpace_eq, h.toLower_eq, List.map_congr_left hkept, List.map_id',
    sanitizeChars_eq_collapse, List.map_congr_left hallowed, List.map_id',
    collapse_eq_self h.single (by simp), trim_eq_self, String.ofList_toList]
  · rintro c hc
    simpa using fun heq : c = '_' => h.leading (heq ▸ hc)
  · rintro c hc
    simpa using fun heq : c = '_' => h.trailing (heq ▸ hc)

end Normal

theorem sanitizeName_sanitizeName (label : String) :
    sanitizeName (sanitizeName label) = sanitizeName label :=
  (normalName_sanitizeName label).sanitizeName_eq

/-! ## Aliases of names -/

/-- A text is a name when it is trimmed, lower-cased or both. -/
def Spells (s name : String) : Prop :=
  trimSpace s = name ∨ toLower s = name ∨ toLower (trimSpace s) = name

/-- No other node's label or id spells the name of the service. -/
def OwnName (nodes : List FlowNode) (node : FlowNode) : Prop :=
  ∀ other ∈ nodes, other ≠ node →
    ¬Spells other.data.label node.serviceName ∧ ¬Spells other.id node.serviceName

/-- The entries of a node. -/
def aliasEntries (node : FlowNode) : List (String × String) :=
  let sanitized := sanitizeName (firstNonBlank [node.data.label, node.id])
  let candidates := [node.data.label, node.id, sanitized, trimSpace node.data.label,
    trimSpace node.id]
  (candidates.filter (· ≠ "")).flatMap fun candidate =>
    [(candidate, sanitized), (toLower candidate, sanitized)]

theorem buildServiceAliasMap_eq (nodes : List FlowNode) :
    buildServiceAliasMap nodes = GoMap.ofList (nodes.flatMap aliasEntries) := rfl

section Aliases

variable {nodes : List FlowNode} {node : FlowNode} {key : String}

theorem toLower_ne_empty {s : String} (h : s ≠ "") : toLower s ≠ "" := by
  intro hempty
  refine h ?_
  have hlength := congrArg (fun t => t.toList.length) hempty
  simpa [toLower] using hlength

/-- An entry under a normal name is that of a node with this name, or of one whose label or id
    spells it. -/
theorem alias_of_normal {value : String} (h : (key, value) ∈ aliasEntries node)
    (hnormal : NormalName key) :
    key ≠ "" ∧ value = sanitizeName (firstNonBlank [node.data.label, node.id]) ∧
      (value = key ∨ Spells node.data.label key ∨ Spells node.id key) := by
  obtain ⟨candidate, hcandidate, hentry⟩ := List.mem_flatMap.1 h
  obtain ⟨hcandidate, hne⟩ := List.mem_filter.1 hcandidate
  have hne : candidate ≠ "" := by simpa using hne
  obtain ⟨hvalue, hkey⟩ : value = sanitizeName (firstNonBlank [node.data.label, node.id]) ∧
      (candidate = key ∨ toLower candidate = key) := by
    simp only [List.mem_cons, List.not_mem_nil, or_false, Prod.mk.injEq] at hentry
    rcases hentry with ⟨hkey, hvalue⟩ | ⟨hkey, hvalue⟩
    · exact ⟨hvalue, .inl hkey.symm⟩
    · exact ⟨hvalue, .inr hkey.symm⟩
  refine ⟨?_, hvalue, ?_⟩
  · rcases hkey with rfl | rfl
    · exact hne
    · exact toLower_ne_empty hne
  have hraw {s : String} (h : s = key ∨ toLower s = key) : Spells s key := by
    rcases h with rfl | h
    · exact .inl hnormal.trimSpace_eq
    · exact .inr (.inl h)
  have htrimmed {s : String} (h : trimSpace s = key ∨ toLower (trimSpace s) = key) :
      Spells s key := h.imp_right .inr
  simp only [List.mem_cons, List.not_mem_nil, or_false] at hcandidate
  rcases hcandidate with rfl | rfl | rfl | rfl | rfl
  · exact .inr (.inl (hraw hkey))
  · exact .inr (.inr (hraw hkey))
  · rw [(normalName_sanitizeName _).toLower_eq, or_self] at hkey
    exact .inl (hvalue.trans hkey)
  · exact .inr (.inl (htrimmed hkey))
  · exact .inr (.inr (htrimmed hkey))

/-- A label that gives a name is not blank. -/
theorem firstNonBlank_label (h : node.serviceName ≠ "") :
    firstNonBlank [node.data.label, node.id] = node.data.label := by
  have hblank : blank node.data.label = false := by
    by_contra hblank
    rw [Bool.not_eq_false, blank, List.all_eq_true] at hblank
    refine h ?_
    have htrim : trim isSpace node.data.label.toList = [] := by
      unfold trim
      rw [List.dropWhile_eq_nil_iff.2 hblank]
      rfl
    have hlower : (toLower (trimSpace node.data.label)).toList = [] := by
      rw [toList_toLower_trimSpace, htrim]
      rfl
    unfold FlowNode.serviceName sanitizeName
    dsimp only
    rw [hlower]
    rfl
  simp [firstNonBlank, hblank]

theorem serviceName_mem_aliasEntries (h : node.serviceName ≠ "") :
    (node.serviceName, node.serviceName) ∈ aliasEntries node := by
  have hname : sanitizeName (firstNonBlank [node.data.label, node.id]) = node.serviceName := by
    rw [firstNonBlank_label h]
    rfl
  unfold aliasEntries
  dsimp only
  rw [hname]
  exact List.mem_flatMap.2 ⟨node.serviceName, by simp [h], by simp⟩

/-- **A name is its own alias.** -/
theorem get?_serviceName (hnode : node ∈ nodes) (hown : OwnName nodes node) :
    ((buildServiceAliasMap nodes).get? node.serviceName).getD "" = node.serviceName := by
  rw [buildServiceAliasMap_eq, GoMap.get?_ofList_eq]
  -- every entry under the name has it as its value
  have hvalue : ∀ e ∈ nodes.flatMap aliasEntries, e.1 = node.serviceName →
      node.serviceName ≠ "" ∧ e.2 = node.serviceName := by
    rintro ⟨key, value⟩ he rfl
    obtain ⟨other, hother, he⟩ := List.mem_flatMap.1 he
    obtain ⟨hne, hvalue, hspelled⟩ := alias_of_normal he (normalName_sanitizeName _)
    refine ⟨hne, ?_⟩
    by_cases hsame : other = node
    · rw [hvalue, hsame, firstNonBlank_label hne]
      rfl
    · obtain ⟨hlabel, hid⟩ := hown other hother hsame
      rcases hspelled with h | h | h
      · exact h
      · exact absurd h hlabel
      · exact absurd h hid
  cases hfind : (nodes.flatMap aliasEntries).reverse.find? fun e => e.1 = node.serviceName with
  | none =>
      by_contra hne
      have hnone := List.find?_eq_none.1 hfind (node.serviceName, node.serviceName)
      refine hnone (List.mem_reverse.2 (List.mem_flatMap.2 ⟨node, hnode, ?_⟩)) (by simp)
      exact serviceName_mem_aliasEntries fun hempty => hne (by rw [hempty]; rfl)
  | some e =>
      have hkey : e.1 = node.serviceName := by simpa using List.find?_some hfind
      exact (hvalue e (List.mem_reverse.1 (List.mem_of_find?_eq_some hfind)) hkey).2

/-! ## References by name -/

theorem translatedName_serviceName (hnode : node ∈ nodes) (hown : OwnName nodes node) :
    translatedName (buildServiceAliasMap nodes) node.serviceName = node.serviceName := by
  have hnormal : NormalName node.serviceName := normalName_sanitizeName _
  unfold translatedName firstAlias
  rw [hnormal.trimSpace_eq, hnormal.toLower_eq]
  simp only [List.map_cons, List.map_nil, get?_serviceName hnode hown]
  by_cases hempty : node.serviceName = ""
  · rw [hempty]
    exact (hempty ▸ hnormal).sanitizeName_eq
  · simp [hempty]

/-- A reference by a name that stands for itself is written as it was. -/
theorem translatedBody_eq_self {aliases : GoMap String} {body : List Char}
    (h : ∀ token, fieldToken body = some token → translatedName aliases token = token) :
    translatedBody aliases body = body := by
  unfold translatedBody
  split
  · rename_i token field fields hsplit
    rw [h (String.ofList token) (by simp [fieldToken, hsplit]), String.toList_ofList, Text.join,
      String.toList_intercalate, List.map_map]
    conv_rhs => rw [eq_of_splitAt hsplit]
    simp [Function.comp_def]
  · rfl

/-- What the references of a text have between their braces. -/
def referenceBodies (value : String) : List (List Char) := references value.length value.toList

theorem referenceBodies_normalizeServiceReferences (value : String) :
    referenceBodies (normalizeServiceReferences value (buildServiceAliasMap nodes))
      = (referenceBodies value).map (translatedBody (buildServiceAliasMap nodes)) := by
  rw [normalizeServiceReferences_eq]
  unfold referenceBodies
  rw [String.toList_ofList]
  exact references_replaceReferences rewrites_translatedBody value.length value.toList
    String.length_toList.le _ (by rw [String.length_ofList])

/-- **A reference by a service's name stays as it is**, whatever else is in the text. -/
theorem referenceBodies_serviceName (hnode : node ∈ nodes) (hown : OwnName nodes node)
    {value : String} {i : Nat} {body : List Char} (hbody : (referenceBodies value)[i]? = some body)
    (htoken : fieldToken body = some node.serviceName) :
    (referenceBodies (normalizeServiceReferences value (buildServiceAliasMap nodes)))[i]?
      = some body := by
  rw [referenceBodies_normalizeServiceReferences, List.getElem?_map, hbody, Option.map_some,
    translatedBody_eq_self]
  intro token h
  obtain rfl := Option.some.inj (htoken.symm.trans h)
  exact translatedName_serviceName hnode hown

/-- **A text that refers to services by their names only** stays as it is. -/
theorem normalizeServiceReferences_eq_self {value : String}
    (h : ∀ token ∈ referenceTokens value,
      ∃ node ∈ nodes, OwnName nodes node ∧ token = node.serviceName) :
    normalizeServiceReferences value (buildServiceAliasMap nodes) = value := by
  rw [normalizeServiceReferences_eq, replaceReferences_eq_self, String.ofList_toList]
  intro body hbody
  rw [translatedBody_eq_self]
  intro token htoken
  obtain ⟨node, hnode, hown, rfl⟩ := h token (List.mem_filterMap.2 ⟨body, hbody, htoken⟩)
  exact translatedName_serviceName hnode hown

end Aliases

/-- **Service names are normal and their own names**; each is an alias of itself, and it is looked up
    as such and a reference to a service by its name stays as it is, unless another node's label or
    id spells the name. -/
theorem sanitizeName_normalises :
    (∀ label, NormalName (sanitizeName label) ∧
      sanitizeName (sanitizeName label) = sanitizeName label) ∧
    (∀ node : FlowNode, node.serviceName ≠ "" →
      (node.serviceName, node.serviceName) ∈ aliasEntries node) ∧
    ∀ nodes : List FlowNode, ∀ node ∈ nodes, OwnName nodes node →
      ((buildServiceAliasMap nodes).get? node.serviceName).getD "" = node.serviceName ∧
      (∀ (value : String) (i : Nat) (body : List Char),
        (referenceBodies value)[i]? = some body → fieldToken body = some node.serviceName →
          (referenceBodies
            (normalizeServiceReferences value (buildServiceAliasMap nodes)))[i]? = some body) ∧
      ∀ value : String, (∀ token ∈ referenceTokens value, token = node.serviceName) →
        normalizeServiceReferences value (buildServiceAliasMap nodes) = value := by
  refine ⟨fun label => ⟨normalName_sanitizeName label, sanitizeName_sanitizeName label⟩,
    fun node h => serviceName_mem_aliasEntries h, ?_⟩
  intro nodes node hnode hown
  refine ⟨get?_serviceName hnode hown, ?_, ?_⟩
  · intro value i body hbody htoken
    exact referenceBodies_serviceName hnode hown hbody htoken
  · intro value h
    exact normalizeServiceReferences_eq_self fun token htoken => ⟨node, hnode, hown, h token htoken⟩

def ordersNode : FlowNode where
  id := "n1"
  data := { label := "Orders API" }

def namedNodes : List FlowNode := [ordersNode, { id := "n2", data := { label := "Cache" } }]

theorem ordersNode_ownName : OwnName namedNodes ordersNode := by
  intro other hother hne
  simp only [namedNodes, List.mem_cons, List.not_mem_nil, or_false] at hother
  rcases hother with rfl | rfl
  · exact absurd rfl hne
  · unfold Spells
    decide +kernel

/-- The reference by the name of the service stays when the one by a label before it is translated. -/
theorem sanitizeName_normalises_orders :
    normalizeServiceReferences "$\x7bCache.host\x7d $\x7borders_api.host\x7d"
        (buildServiceAliasMap namedNodes) = "$\x7bcache.host\x7d $\x7borders_api.host\x7d" ∧
      (referenceBodies (normalizeServiceReferences "$\x7bCache.host\x7d $\x7borders_api.host\x7d"
        (buildServiceAliasMap namedNodes)))[1]? = some "orders_api.host".toList ∧
      normalizeServiceReferences "http://$\x7borders_api.host\x7d" (buildServiceAliasMap namedNodes)
        = "http://$\x7borders_api.host\x7d" := by
  obtain ⟨-, hreference, hvalue⟩ :=
    sanitizeName_normalises.2.2 namedNodes ordersNode (by simp [namedNodes]) ordersNode_ownName
  exact ⟨by decide +kernel, hreference _ 1 _ (by decide +kernel) (by decide +kernel),
    hvalue _ (by decide +kernel)⟩

example : sanitizeName "  Order--API (v2) " = "order_api_v2" := by decide +kernel

end TokyoTester
