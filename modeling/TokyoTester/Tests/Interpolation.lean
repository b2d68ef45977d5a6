import TokyoTester.Tests.Executors

set_option autoImplicit false

/-! # Interpolation (`pkg/test/interpolator.go`, `pkg/orchestrator/interpolator.go`)

Before a test is executed the references in its configuration are replaced by values, and before a
service is started those in its environment. The references are found in the original text, but then
the text of each is replaced wherever it occurs in what has become of the text. With one reference
this is a substitution; with two, a value can contain or complete the text of the other
(`interpolation_simultaneous_iff`). -/

namespace TokyoTester

open Text

/-! ## Replacing a text wherever it occurs -/

/-- A reference, with its braces. -/
def referenceTo (body : List Char) : List Char := '$' :: '\x7b' :: (body ++ ['\x7d'])

section Occurrences

variable {body v : List Char} {f g : List Char → List Char}

theorem isPrefixOf_referenceTo {cs : List Char} (hbody : body ≠ []) (hclosed : '\x7d' ∉ body) :
    (referenceTo body).isPrefixOf cs = true ↔ ∃ tail, matchReference cs = some (body, tail) := by
  rw [List.isPrefixOf_iff_prefix]
  constructor
  · rintro ⟨tail, rfl⟩
    exact ⟨tail, matchReference_eq_some.2 ⟨hbody, hclosed, by simp [referenceTo]⟩⟩
  · rintro ⟨tail, hmatch⟩
    obtain ⟨-, -, rfl⟩ := matchReference_eq_some.1 hmatch
    exact ⟨tail, by simp [referenceTo]⟩

/-- **In a text with one kind of reference**, its occurrences are the references. -/
theorem replaceAllChars_eq_replaceReferences (hbody : body ≠ []) (hclosed : '\x7d' ∉ body) :
    ∀ (fuel : Nat) (cs : List Char), (∀ b ∈ references fuel cs, b = body) →
      replaceAllChars (referenceTo body) v fuel cs = replaceReferences (fun _ => v) fuel cs := by
  intro fuel
  induction fuel with
  | zero => exact fun _ _ => rfl
  | succ fuel ih =>
      intro cs hrefs
      cases cs with
      | nil => rfl
      | cons c cs =>
          rw [replaceAllChars, replaceReferences]
          cases hmatch : matchReference (c :: cs) with
          | none =>
              rw [references, hmatch] at hrefs
              have hnot : ¬(referenceTo body).isPrefixOf (c :: cs) = true := by
                rintro hstands
                obtain ⟨tail, htail⟩ := (isPrefixOf_referenceTo hbody hclosed).1 hstands
                cases hmatch.symm.trans htail
              rw [if_neg hnot, ih cs hrefs]
          | some found =>
              obtain ⟨b, tail⟩ := found
              rw [references, hmatch] at hrefs
              obtain rfl : b = body := hrefs b (by simp)
              have hstands := (isPrefixOf_referenceTo hbody hclosed).2 ⟨tail, hmatch⟩
              obtain ⟨-, -, heq⟩ := matchReference_eq_some.1 hmatch
              have hdrop : (c :: cs).drop (referenceTo b).length = tail := by
                rw [heq]
                simp [referenceTo]
              rw [if_pos hstands, hdrop, ih tail fun x hx => hrefs x (by simp [hx])]

/-- What a reference is replaced by is in the result. -/
theorem infix_replaceReferences : ∀ (fuel : Nat) (cs : List Char), body ∈ references fuel cs →
    f body <:+: replaceReferences f fuel cs := by
  intro fuel
  induction fuel with
  | zero => exact fun _ h => by cases h
  | succ fuel ih =>
      intro cs h
      cases cs with
      | nil => cases h
      | cons c cs =>
          rw [replaceReferences]
          cases hmatch : matchReference (c :: cs) with
          | none =>
              rw [references, hmatch] at h
              exact (ih cs h).trans (List.suffix_cons c _).isInfix
          | some found =>
              obtain ⟨b, tail⟩ := found
              rw [references, hmatch] at h
              rcases List.mem_cons.1 h with rfl | h
              · exact (List.prefix_append _ _).isInfix
              · exact (ih tail h).trans (List.suffix_append _ _).isInfix

theorem replaceReferences_congr : ∀ (fuel : Nat) (cs : List Char),
    (∀ b ∈ references fuel cs, f b = g b) →
      replaceReferences f fuel cs = replaceReferences g fuel cs := by
  intro fuel
  induction fuel with
  | zero => exact fun _ _ => rfl
  | succ fuel ih =>
      intro cs h
      cases cs with
      | nil => rfl
      | cons c cs =>
          rw [replaceReferences, replaceReferences]
          cases hmatch : matchReference (c :: cs) with
          | none =>
              rw [references, hmatch] at h
              exact congrArg (List.cons c) (ih cs h)
          | some found =>
              obtain ⟨b, tail⟩ := found
              rw [references, hmatch] at h
              dsimp only
              rw [h b (by simp), ih tail fun x hx => h x (by simp [hx])]

theorem replaceReferences_self : ∀ (fuel : Nat) (cs : List Char),
    replaceReferences referenceTo fuel cs = cs := by
  intro fuel
  induction fuel with
  | zero => exact fun _ => rfl
  | succ fuel ih =>
      intro cs
      cases cs with
      | nil => rfl
      | cons c cs =>
          rw [replaceReferences]
          cases hmatch : matchReference (c :: cs) with
          | none => exact congrArg (List.cons c) (ih cs)
          | some found =>
              obtain ⟨b, tail⟩ := found
              obtain ⟨-, -, heq⟩ := matchReference_eq_some.1 hmatch
              rw [heq]
              simp [referenceTo, ih]

theorem mem_references : ∀ (fuel : Nat) (cs : List Char), body ∈ references fuel cs →
    body ≠ [] ∧ '\x7d' ∉ body := by
  intro fuel
  induction fuel with
  | zero => exact fun _ h => by cases h
  | succ fuel ih =>
      intro cs h
      cases cs with
      | nil => cases h
      | cons c cs =>
          cases hmatch : matchReference (c :: cs) with
          | none =>
              rw [references, hmatch] at h
              exact ih cs h
          | some found =>
              obtain ⟨b, tail⟩ := found
              rw [references, hmatch] at h
              rcases List.mem_cons.1 h with rfl | h
              · obtain ⟨hbody, hclosed, -⟩ := matchReference_eq_some.1 hmatch
                exact ⟨hbody, hclosed⟩
              · exact ih tail h

/-- Where the end of a reference stands after a replacement, it stood before, when the value is
    longer than the reference and has no closing brace. -/
theorem prefix_of_prefix_replaceAllChars (hv : '\x7d' ∉ v)
    (hlong : (referenceTo body).length < v.length) :
    ∀ (fuel : Nat) (cs u : List Char), u ++ ['\x7d'] <:+ referenceTo body →
      u ++ ['\x7d'] <+: replaceAllChars (referenceTo body) v fuel cs → u ++ ['\x7d'] <+: cs := by
  intro fuel
  induction fuel with
  | zero => exact fun _ _ _ h => h
  | succ fuel ih =>
      intro cs u hsuffix hprefixed
      cases cs with
      | nil => exact hprefixed
      | cons c cs =>
          rw [replaceAllChars] at hprefixed
          split_ifs at hprefixed with hstands
          · -- the end would lie inside the value
            have hshort : (u ++ ['\x7d']).length ≤ v.length := hsuffix.length_le.trans hlong.le
            have hin : u ++ ['\x7d'] <+: v :=
              List.prefix_of_prefix_length_le hprefixed (List.prefix_append _ _) hshort
            exact absurd (hin.subset (by simp)) hv
          · cases u with
            | nil =>
                obtain ⟨rest, hrest⟩ := hprefixed
                obtain ⟨rfl, -⟩ := List.cons.inj hrest
                exact ⟨cs, rfl⟩
            | cons d u =>
                obtain ⟨rest, hrest⟩ := hprefixed
                obtain ⟨rfl, hrest'⟩ := List.cons.inj hrest
                have hsuffix' : u ++ ['\x7d'] <:+ referenceTo body :=
                  (List.suffix_cons d _).trans hsuffix
                exact (List.prefix_cons_inj d).2 (ih cs u hsuffix' ⟨rest, hrest'⟩)

/-- A reference does not begin in a value without a dollar. -/
theorem infix_of_infix_append {rest : List Char} (hdollar : '$' ∉ v)
    (h : referenceTo body <:+: v ++ rest) : referenceTo body <:+: rest := by
  induction v with
  | nil => exact h
  | cons x v ih =>
      rcases List.infix_cons_iff.1 h with hprefixed | hinfix
      · obtain ⟨tail, htail⟩ := hprefixed
        exact absurd (List.cons.inj htail).1 fun hx => hdollar (hx ▸ List.mem_cons_self)
      · exact ih (fun hmem => hdollar (List.mem_cons_of_mem _ hmem)) hinfix

/-- **Such a value leaves no occurrence of the reference.** -/
theorem not_infix_replaceAllChars (hv : '\x7d' ∉ v) (hdollar : '$' ∉ v)
    (hlong : (referenceTo body).length < v.length) :
    ∀ (fuel : Nat) (cs : List Char), cs.length ≤ fuel →
      ¬referenceTo body <:+: replaceAllChars (referenceTo body) v fuel cs := by
  intro fuel
  induction fuel with
  | zero =>
      intro cs hcs hinfix
      obtain rfl : cs = [] := List.length_eq_zero_iff.1 (by omega)
      have := List.infix_nil.1 hinfix
      cases this
  | succ fuel ih =>
      intro cs hcs hinfix
      cases cs with
      | nil =>
          have := List.infix_nil.1 hinfix
          cases this
      | cons c cs =>
          rw [replaceAllChars] at hinfix
          rw [List.length_cons] at hcs
          split_ifs at hinfix with hstands
          · refine ih _ ?_ (infix_of_infix_append hdollar hinfix)
            rw [List.length_drop, referenceTo]
            simp only [List.length_cons]
            omega
          · rcases List.infix_cons_iff.1 hinfix with hprefixed | hinfix
            · -- it would have stood there before
              obtain ⟨rest, hrest⟩ := hprefixed
              obtain ⟨rfl, hrest'⟩ := List.cons.inj hrest
              have hend : '\x7b' :: body ++ ['\x7d'] <+: cs :=
                prefix_of_prefix_replaceAllChars hv hlong fuel cs ('\x7b' :: body)
                  (List.suffix_cons '$' _) ⟨rest, hrest'⟩
              exact hstands (List.isPrefixOf_iff_prefix.2 ((List.prefix_cons_inj '$').2 hend))
            · exact ih cs (by omega) hinfix

theorem length_le_replaceAllChars {old : List Char} (hlong : old.length ≤ v.length) :
    ∀ (fuel : Nat) (cs : List Char), cs.length ≤ (replaceAllChars old v fuel cs).length := by
  intro fuel
  induction fuel with
  | zero => exact fun _ => le_refl _
  | succ fuel ih =>
      intro cs
      cases cs with
      | nil => exact le_refl _
      | cons c cs =>
          rw [replaceAllChars]
          split_ifs
          · have hrest := ih ((c :: cs).drop old.length)
            rw [List.length_drop] at hrest
            rw [List.length_append]
            omega
          · exact Nat.succ_le_succ (ih cs)

/-- Where the text occurs, a longer value makes the result longer. -/
theorem length_lt_replaceAllChars {old : List Char} (hlong : old.length < v.length) :
    ∀ (fuel : Nat) (cs : List Char), cs.length ≤ fuel → old <:+: cs → old ≠ [] →
      cs.length < (replaceAllChars old v fuel cs).length := by
  intro fuel
  induction fuel with
  | zero =>
      intro cs hcs hinfix hold
      obtain rfl : cs = [] := List.length_eq_zero_iff.1 (by omega)
      exact absurd (List.infix_nil.1 hinfix) hold
  | succ fuel ih =>
      intro cs hcs hinfix hold
      cases cs with
      | nil => exact absurd (List.infix_nil.1 hinfix) hold
      | cons c cs =>
          rw [replaceAllChars]
          rw [List.length_cons] at hcs
          split_ifs with hstands
          · have hrest := length_le_replaceAllChars hlong.le fuel ((c :: cs).drop old.length)
            rw [List.length_drop] at hrest
            rw [List.length_append]
            omega
          · rcases List.infix_cons_iff.1 hinfix with hprefixed | hinfix
            · exact absurd (List.isPrefixOf_iff_prefix.2 hprefixed) hstands
            · exact Nat.succ_lt_succ (ih cs (by omega) hinfix hold)

end Occurrences

/-! ## The interpolation of a text -/

section Interpolation

variable (resolve : String → Except String String)

/-- The loop over the matches: each is resolved, and its text replaced everywhere. -/
def interpolateRefs (key : String) : List String → String → Except String String
  | [], resolved => .ok resolved
  | varRef :: rest, resolved => do
    let replacement ← (resolve varRef).mapError fun e =>
      "failed to resolve $\x7b" ++ varRef ++ "\x7d in " ++ key ++ ": " ++ e
    interpolateRefs key rest (replaceAll resolved ("$\x7b" ++ varRef ++ "\x7d") replacement)

/-- One text in `InterpolateTestConfig` and `InterpolateEnvVars`. -/
def interpolateText (key text : String) : Except String String :=
  interpolateRefs resolve key (referencesOf text) text

/-- The value of a reference that can be resolved. -/
def valueOf (varRef : String) : String :=
  match resolve varRef with
  | .ok value => value
  | .error _ => ""

end Interpolation

/-- The text with each reference replaced by its value, all at once. -/
def simultaneous (value : String → String) (text : String) : String :=
  String.ofList (replaceReferences (fun body => (value (String.ofList body)).toList) text.length
    text.toList)

/-- The text with these references replaced, and the others as they are. -/
def partlyReplaced (done : List String) (value : String → String) : String → String :=
  simultaneous fun varRef => if varRef ∈ done then value varRef else "$\x7b" ++ varRef ++ "\x7d"

/-- Each time a reference is replaced, its text occurs only where the reference stands. -/
def Undisturbed (value : String → String) (text : String) : Prop :=
  ∀ before varRef after, referencesOf text = before ++ varRef :: after →
    replaceAll (partlyReplaced before value text) ("$\x7b" ++ varRef ++ "\x7d") (value varRef)
      = partlyReplaced (before ++ [varRef]) value text

theorem interpolateEnvVar_eq (registry : RuntimeRegistry) (key value : String) :
    interpolateEnvVar registry key value = interpolateText (resolveReference registry) key value := by
  have hloop : ∀ refs resolved, interpolateAll registry key refs resolved
      = interpolateRefs (resolveReference registry) key refs resolved := by
    intro refs
    induction refs with
    | nil => exact fun _ => rfl
    | cons varRef rest ih =>
        intro resolved
        rw [interpolateAll, interpolateRefs]
        exact congrArg _ (funext fun replacement => ih _)
  exact hloop _ _

/-! ## What it gives -/

section Results

variable {resolve : String → Except String String} {key text result : String}

/-- What the loop does when every reference is resolved. -/
def replaceInTurn (value : String → String) (refs : List String) (text : String) : String :=
  refs.foldl (fun s varRef => replaceAll s ("$\x7b" ++ varRef ++ "\x7d") (value varRef)) text

theorem interpolateRefs_ok {refs : List String} {resolved : String}
    (h : interpolateRefs resolve key refs resolved = .ok result) :
    result = replaceInTurn (valueOf resolve) refs resolved := by
  induction refs generalizing resolved with
  | nil => exact (Except.ok.inj h).symm
  | cons varRef rest ih =>
      rw [interpolateRefs] at h
      cases hvalue : resolve varRef with
      | error e => rw [hvalue] at h; cases h
      | ok replacement =>
          rw [hvalue] at h
          have hnext := ih h
          rw [hnext, replaceInTurn, replaceInTurn, List.foldl_cons, valueOf, hvalue]

/-- The loop goes on only while every reference is resolved. -/
theorem interpolateRefs_resolved {refs : List String} {resolved : String}
    (h : interpolateRefs resolve key refs resolved = .ok result) :
    ∀ varRef ∈ refs, ∃ value, resolve varRef = .ok value := by
  induction refs generalizing resolved with
  | nil => simp
  | cons varRef rest ih =>
      rw [interpolateRefs] at h
      cases hvalue : resolve varRef with
      | error e => rw [hvalue] at h; cases h
      | ok replacement =>
          rw [hvalue] at h
          exact List.forall_mem_cons.2 ⟨⟨replacement, hvalue⟩, ih h⟩

theorem interpolateRefs_total {value : String → String} (refs : List String) (resolved : String) :
    interpolateRefs (fun varRef => .ok (value varRef)) key refs resolved
      = .ok (replaceInTurn value refs resolved) := by
  induction refs generalizing resolved with
  | nil => rfl
  | cons varRef rest ih => exact ih _

theorem mem_referencesOf {varRef : String} (h : varRef ∈ referencesOf text) :
    varRef.toList ≠ [] ∧ '\x7d' ∉ varRef.toList ∧
      varRef.toList ∈ references text.length text.toList := by
  obtain ⟨body, hbody, rfl⟩ := List.mem_map.1 h
  rw [String.toList_ofList]
  exact ⟨(mem_references _ _ hbody).1, (mem_references _ _ hbody).2, hbody⟩

theorem toList_reference (varRef : String) :
    ("$\x7b" ++ varRef ++ "\x7d").toList = referenceTo varRef.toList := by
  rw [String.toList_append, String.toList_append]
  rfl

theorem toList_replaceAll (s varRef v : String) :
    (replaceAll s ("$\x7b" ++ varRef ++ "\x7d") v).toList
      = replaceAllChars (referenceTo varRef.toList) v.toList s.length s.toList := by
  rw [replaceAll, String.toList_ofList, toList_reference]

theorem simultaneous_congr {value value' : String → String}
    (h : ∀ varRef ∈ referencesOf text, value varRef = value' varRef) :
    simultaneous value text = simultaneous value' text := by
  unfold simultaneous
  rw [replaceReferences_congr _ _ fun body hbody => ?_]
  rw [h _ (List.mem_map_of_mem hbody)]

theorem partlyReplaced_nil (value : String → String) : partlyReplaced [] value text = text := by
  have hself := replaceReferences_self text.length text.toList
  unfold partlyReplaced simultaneous
  rw [replaceReferences_congr (g := referenceTo) _ _ fun body _ => ?_, hself, String.ofList_toList]
  dsimp only
  rw [if_neg (by simp), toList_reference, String.toList_ofList]

theorem partlyReplaced_all (value : String → String) :
    partlyReplaced (referencesOf text) value text = simultaneous value text :=
  simultaneous_congr fun _ hvarRef => if_pos hvarRef

/-- **Undisturbed replacements are the substitution.** -/
theorem replaceInTurn_of_undisturbed {value : String → String} (h : Undisturbed value text) :
    replaceInTurn value (referencesOf text) text = simultaneous value text := by
  have hloop : ∀ after before, referencesOf text = before ++ after →
      replaceInTurn value after (partlyReplaced before value text)
        = partlyReplaced (referencesOf text) value text := by
    intro after
    induction after with
    | nil =>
        intro before hsplit
        rw [hsplit, List.append_nil]
        rfl
    | cons varRef after ih =>
        intro before hsplit
        rw [replaceInTurn, List.foldl_cons, h before varRef after hsplit]
        exact ih (before ++ [varRef]) (by rw [hsplit, List.append_assoc]; rfl)
  have hwhole := hloop (referencesOf text) [] rfl
  rwa [partlyReplaced_nil, partlyReplaced_all] at hwhole

/-- One kind of reference is replaced at once. -/
theorem replaceAll_eq_simultaneous {varRef : String} (value : String → String)
    (hmem : varRef ∈ referencesOf text) (hall : ∀ r ∈ referencesOf text, r = varRef) :
    replaceAll text ("$\x7b" ++ varRef ++ "\x7d") (value varRef) = simultaneous value text := by
  obtain ⟨hbody, hclosed, -⟩ := mem_referencesOf hmem
  have hone : ∀ body ∈ references text.length text.toList, body = varRef.toList := by
    intro body hbody
    rw [← hall _ (List.mem_map_of_mem hbody), String.toList_ofList]
  unfold replaceAll simultaneous
  rw [toList_reference, replaceAllChars_eq_replaceReferences hbody hclosed _ _ hone]
  rw [replaceReferences_congr _ _ fun body hin => ?_]
  rw [hone body hin, String.ofList_toList]

theorem replaceInTurn_single (value : String → String) (h : (referencesOf text).length ≤ 1) :
    replaceInTurn value (referencesOf text) text = simultaneous value text := by
  cases hrefs : referencesOf text with
  | nil =>
      have hnone : simultaneous value text = partlyReplaced [] value text :=
        simultaneous_congr fun varRef hvarRef => by
          rw [hrefs] at hvarRef
          cases hvarRef
      rw [hnone, partlyReplaced_nil]
      rfl
  | cons varRef rest =>
      rw [hrefs, List.length_cons] at h
      obtain rfl : rest = [] := List.length_eq_zero_iff.1 (by omega)
      exact replaceAll_eq_simultaneous value (by rw [hrefs]; simp) (by rw [hrefs]; simp)

/-! ## Values that disturb -/

/-- The value of a reference is in the substituted text. -/
theorem infix_simultaneous {value : String → String} {varRef : String}
    (h : varRef ∈ referencesOf text) :
    (value varRef).toList <:+: (simultaneous value text).toList := by
  obtain ⟨-, -, hbody⟩ := mem_referencesOf h
  have hinfix := infix_replaceReferences
    (f := fun body => (value (String.ofList body)).toList) _ _ hbody
  unfold simultaneous
  rwa [String.ofList_toList, ← String.toList_ofList (l := replaceReferences _ _ _)] at hinfix

/-- A value that is longer than a reference and is no part of one. -/
def plainValue (varRef : String) : String :=
  String.ofList (List.replicate ((referenceTo varRef.toList).length + 1) 'a')

/-- **The last reference is gone in the end**, also where it is the value of another. -/
theorem disturbed_of_ne {varRef last : String} {before : List String}
    (hrefs : referencesOf text = before ++ [last]) (hmem : varRef ∈ before) (hne : varRef ≠ last) :
    ∃ value : String → String,
      replaceInTurn value (referencesOf text) text ≠ simultaneous value text := by
  let value : String → String := fun r =>
    if r = last then plainValue last else "$\x7b" ++ last ++ "\x7d"
  refine ⟨value, fun heq => ?_⟩
  have hin : varRef ∈ referencesOf text := by
    rw [hrefs]
    exact List.mem_append_left _ hmem
  have hinfix : (value varRef).toList <:+: (simultaneous value text).toList :=
    infix_simultaneous hin
  have hvalue : value varRef = "$\x7b" ++ last ++ "\x7d" := if_neg hne
  rw [← heq, hvalue, toList_reference, hrefs, replaceInTurn, List.foldl_append, List.foldl_cons,
    List.foldl_nil] at hinfix
  have hlast : value last = plainValue last := if_pos rfl
  rw [hlast, toList_replaceAll, plainValue, String.toList_ofList] at hinfix
  exact not_infix_replaceAllChars (by simp) (by simp) (by simp) _ _
    (String.length_toList).le hinfix

theorem length_le_replaceInTurn {value : String → String} (refs : List String)
    (hlong : ∀ r ∈ refs, (referenceTo r.toList).length ≤ (value r).toList.length) (s : String) :
    s.toList.length ≤ (replaceInTurn value refs s).toList.length := by
  induction refs generalizing s with
  | nil => exact le_refl _
  | cons r refs ih =>
      have hfirst := length_le_replaceAllChars (hlong r (by simp)) s.length s.toList
      have hrest := ih (fun x hx => hlong x (by simp [hx]))
        (replaceAll s ("$\x7b" ++ r ++ "\x7d") (value r))
      rw [← toList_replaceAll] at hfirst
      exact hfirst.trans hrest

/-- **A repeated reference is replaced again** in its own value. -/
theorem disturbed_of_eq {varRef : String} {rest : List String}
    (hrefs : referencesOf text = varRef :: varRef :: rest) (hall : ∀ r ∈ rest, r = varRef) :
    ∃ value : String → String,
      replaceInTurn value (referencesOf text) text ≠ simultaneous value text := by
  let value : String → String := fun _ => "$\x7b" ++ varRef ++ "\x7d" ++ "a"
  have hlong : (referenceTo varRef.toList).length < (value varRef).toList.length := by
    rw [String.toList_append, toList_reference, List.length_append]
    exact Nat.lt_succ_self _
  have hmem : varRef ∈ referencesOf text := by rw [hrefs]; simp
  have hone : replaceAll text ("$\x7b" ++ varRef ++ "\x7d") (value varRef)
      = simultaneous value text := by
    refine replaceAll_eq_simultaneous value hmem fun r hr => ?_
    rw [hrefs] at hr
    rcases List.mem_cons.1 hr with rfl | hr
    · rfl
    · rcases List.mem_cons.1 hr with rfl | hr
      · rfl
      · exact hall r hr
  -- after the first turn the text is right, and the second one finds the reference in the value
  have hagain : referenceTo varRef.toList <:+: (simultaneous value text).toList := by
    refine List.IsInfix.trans ?_ (infix_simultaneous hmem)
    rw [String.toList_append, toList_reference]
    exact (List.prefix_append _ _).isInfix
  have hlonger := length_lt_replaceAllChars hlong _ _ (String.length_toList).le hagain
    (by simp [referenceTo])
  have hrest := length_le_replaceInTurn rest (fun r hr => hall r hr ▸ hlong.le)
    (replaceAll (simultaneous value text) ("$\x7b" ++ varRef ++ "\x7d") (value varRef))
  refine ⟨value, fun heq => ?_⟩
  rw [hrefs, replaceInTurn, List.foldl_cons, List.foldl_cons, hone] at heq
  rw [replaceInTurn, heq, toList_replaceAll] at hrest
  omega

/-- A text with two references is disturbed by some values. -/
theorem exists_disturbing (hmany : ¬(referencesOf text).length ≤ 1) :
    ∃ value : String → String,
      replaceInTurn value (referencesOf text) text ≠ simultaneous value text := by
  rcases List.eq_nil_or_concat' (referencesOf text) with hnil | ⟨before, last, hrefs⟩
  · rw [hnil] at hmany
    exact absurd (Nat.zero_le 1) hmany
  by_cases hsame : ∀ r ∈ before, r = last
  · cases before with
    | nil =>
        rw [hrefs] at hmany
        exact absurd (le_refl 1) hmany
    | cons first rest =>
        obtain rfl := hsame first (by simp)
        cases rest with
        | nil => exact disturbed_of_eq hrefs (by simp)
        | cons second rest =>
            obtain rfl := hsame second (by simp)
            have hrest : ∀ r ∈ rest ++ [second], r = second := by
              intro r hr
              rcases List.mem_append.1 hr with hr | hr
              · exact hsame r (by simp [hr])
              · exact List.mem_singleton.1 hr
            exact disturbed_of_eq hrefs hrest
  · push Not at hsame
    obtain ⟨r, hr, hne⟩ := hsame
    exact disturbed_of_ne hrefs hr hne

end Results

/-- **One text, whatever the values**: the interpolation is the substitution exactly when the text
    has at most one reference. -/
theorem interpolation_simultaneous_iff (text : String) :
    (∀ (resolve : String → Except String String) (key result : String),
      interpolateText resolve key text = .ok result →
        result = simultaneous (valueOf resolve) text) ↔ (referencesOf text).length ≤ 1 := by
  constructor
  · intro hall
    by_contra hmany
    obtain ⟨value, hdisturbed⟩ := exists_disturbing hmany
    exact hdisturbed (hall (fun varRef => .ok (value varRef)) "" _ (interpolateRefs_total _ _))
  · intro hone resolve key result hresult
    rw [interpolateRefs_ok hresult, replaceInTurn_single _ hone]

end TokyoTester
