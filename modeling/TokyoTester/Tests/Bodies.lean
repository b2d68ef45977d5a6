import TokyoTester.Library.Matching
import TokyoTester.Tests.Validated

set_option autoImplicit false

/-! # Expected bodies of requests (`translateExpectedHTTPBody`, `pkg/test/http.go`)

The mode of an expected body is not in the configuration that is built from it. The executor goes by
the type of what it finds there: a text is looked for in the response, and of an object each member
is compared with that of the response. -/

namespace Text

/-- A text is found where it is a part of the other one. -/
theorem contains_iff {s sub : String} :
    contains s sub = true ↔ sub.toList <:+: s.toList := by
  unfold contains
  rw [List.any_eq_true, List.infix_iff_prefix_suffix]
  constructor
  · rintro ⟨t, ht, hprefix⟩
    exact ⟨t, List.isPrefixOf_iff_prefix.1 hprefix, (List.mem_tails t _).1 ht⟩
  · rintro ⟨t, hprefix, hsuffix⟩
    exact ⟨t, (List.mem_tails t _).2 hsuffix, List.isPrefixOf_iff_prefix.2 hprefix⟩

end Text

namespace TokyoTester

open Transaction

section Bodies

variable {ν : Type} [DecidableEq ν] (number : String → ν) (lib : Libraries)

/-- The libraries with `reflect.DeepEqual` on values that were read from JSON. -/
def Libraries.comparing : Libraries := { lib with deepEqual := Json.equal number }

/-- The check of an `expected_body` that was looked up. -/
def checkLookedUp (value : Option AnyValue) (response : String) : Outcome :=
  match (ConfigValue.ofAny value).present? with
  | some expectedBody => checkBody (lib.comparing number) response expectedBody
  | none => .ok ()

/-- The check of an expected body, as it is translated. -/
def checkTranslated (b : ExpectedBody) (response : String) : Outcome :=
  checkLookedUp number lib (translateExpectedHTTPBody (some b)) response

/-! ## What the modes mean -/

/-- The text that the mode `contains` looks for. -/
def expectedText (value : Option AnyValue) : String :=
  match Codec.any.encode value with
  | .str s => s
  | j => Json.marshal j

/-- The JSON that the other modes compare with: a text is one of JSON. -/
def expectedJson (value : Option AnyValue) : Option Json :=
  match Codec.any.encode value with
  | .str raw => (Json.parse raw).map Json.normalize
  | j => some j

/-- The response as JSON. -/
def readResponse (response : String) : Option Json := (Json.parse response).map Json.normalize

/-- What an expected body asks of a response, in the modes that validation accepts. -/
def BodyMeets (b : ExpectedBody) (response : String) : Prop :=
  match b.mode with
  | "contains" => (expectedText b.value).toList <:+: response.toList
  | "json_partial" => ∃ actual expected, readResponse response = some actual ∧
      expectedJson b.value = some expected ∧ Json.includes number actual expected = true
  | _ => ∃ actual expected, readResponse response = some actual ∧
      expectedJson b.value = some expected ∧ Json.equal number actual expected = true

/-- The check passes on exactly the responses that the mode asks for. -/
def CheckedByMode (b : ExpectedBody) : Prop :=
  ∀ response, checkTranslated number lib b response = .ok () ↔ BodyMeets number b response

/-- The body is a text to look for, or some members of an object with no object in them. -/
def ShallowBody (b : ExpectedBody) : Prop :=
  b.mode = "contains" ∨ b.mode = "json_partial" ∧ ∃ members,
    expectedJson b.value = some (.obj members) ∧ members ≠ [] ∧
      ∀ m ∈ members, Json.flat m.2 = true

variable {number lib}

/-! ## The translation -/

theorem expect_eq_ok {ok : Bool} {message : String} : expect ok message = .ok () ↔ ok = true := by
  unfold expect
  cases ok <;> simp

theorem translate_contains {b : ExpectedBody} (h : b.mode = "contains") :
    translateExpectedHTTPBody (some b) = some (.str (expectedText b.value)) := by
  unfold translateExpectedHTTPBody expectedText
  simp only [h]
  cases hvalue : b.value with
  | none => rfl
  | some v =>
      obtain ⟨j, hcanonical, hnull⟩ := v
      cases j <;> rfl

/-- In the other modes it is the JSON that is expected, or an empty object. -/
theorem encode_translate {b : ExpectedBody} (h : b.mode ≠ "contains") :
    Codec.any.encode (translateExpectedHTTPBody (some b))
      = (expectedJson b.value).getD (.obj []) := by
  obtain ⟨mode, value⟩ := b
  unfold translateExpectedHTTPBody
  dsimp only
  split
  · exact absurd rfl h
  · exact absurd rfl h
  · rename_i v _
    obtain ⟨j, hcanonical, hnull⟩ := v
    unfold expectedJson
    cases j with
    | str raw =>
        dsimp only [Codec.any]
        cases hparse : Json.parse raw with
        | none => rfl
        | some k =>
            obtain ⟨w, hw, hencode⟩ := Codec.readAny_of_wellFormed (Json.wellFormed_of_parse hparse)
            simp only [Option.bind_eq_bind, Option.bind_some, hw]
            exact hencode
    | _ => rfl
  · rfl

/-- An expected value is canonical, also when it is read from a text. -/
theorem canonical_expectedJson {value : Option AnyValue} {expected : Json}
    (h : expectedJson value = some expected) : expected.canonical = true := by
  unfold expectedJson at h
  split at h
  · obtain ⟨j, hparse, rfl⟩ := Option.map_eq_some_iff.1 h
    exact Json.canonical_normalize j (Json.wellFormed_of_parse hparse)
  · obtain rfl := Option.some.inj h
    exact AnyValue.canonical_encode value

/-! ## The check -/

/-- Each expected member is one of the response's object. -/
def MembersFound (number : String → ν) (actual expected : List (String × Json)) : Prop :=
  ∀ m ∈ expected, ∃ a, Json.value? actual m.1 = some a ∧ Json.equal number a m.2 = true

/-- The members of a document in JSON. -/
def documentMembers (m : Document) : List (String × Json) :=
  m.entries.map fun e => (e.1, Codec.any.encode e.2)

theorem value?_documentMembers (m : Document) (k : String) :
    Json.value? (documentMembers m) k = (m.get? k).map Codec.any.encode := by
  unfold Json.value? documentMembers GoMap.get?
  rw [List.find?_map, Option.map_map, Option.map_map]
  rfl

theorem checkField_ok_iff {actual : Document} {e : String × Option AnyValue} :
    checkField (lib.comparing number) actual e = .ok () ↔
      ∃ a, Json.value? (documentMembers actual) e.1 = some a ∧
        Json.equal number a (Codec.any.encode e.2) = true := by
  unfold checkField
  rw [value?_documentMembers]
  cases actual.get? e.1 with
  | none => simp
  | some a =>
      rw [Option.map_some]
      exact expect_eq_ok.trans ⟨fun h => ⟨_, rfl, h⟩, fun ⟨_, ha, h⟩ => Option.some.inj ha ▸ h⟩

/-- **An object passes** if each of its members is one of the response, which may be `null` when it
    has none. -/
theorem checkObject_ok_iff {response : String} {expected : Document} :
    checkObject (lib.comparing number) response expected = .ok () ↔
      (∃ actual, readResponse response = some (.obj actual) ∧
          MembersFound number actual (documentMembers expected)) ∨
        readResponse response = some .null ∧ documentMembers expected = [] := by
  have hfields : ∀ actual : Document,
      expected.entries.forM (checkField (lib.comparing number) actual) = .ok () ↔
        MembersFound number (documentMembers actual) (documentMembers expected) := by
    intro actual
    rw [forM_eq_ok]
    unfold MembersFound documentMembers
    rw [List.forall_mem_map]
    exact forall₂_congr fun e _ => checkField_ok_iff
  unfold checkObject readResponse
  cases hparse : Json.parse response with
  | none => simp
  | some j =>
      simp only [Option.bind_eq_bind, Option.bind_some, Option.map_some, Option.some.injEq]
      cases j with
      | obj members =>
          obtain ⟨actual, hactual, hmembers⟩ :=
            Codec.decode_map_of_wellFormed (Json.wellFormed_of_parse hparse)
          rw [hactual]
          dsimp only
          rw [hfields, ← hmembers]
          exact ⟨fun h => .inl ⟨_, rfl, h⟩, fun h => by
            rcases h with ⟨ms, hms, h⟩ | ⟨hnull, -⟩
            · obtain rfl := Json.obj.inj hms
              exact h
            · cases hnull⟩
      | null =>
          -- a body that is null decodes to the nil map, where no field is found
          show expected.entries.forM (checkField (lib.comparing number) GoMap.empty) = .ok () ↔ _
          rw [hfields, Json.normalize]
          have hnone : MembersFound number [] (documentMembers expected) ↔
              documentMembers expected = [] := by
            unfold MembersFound
            rw [List.eq_nil_iff_forall_not_mem]
            exact forall_congr' fun m => by simp [Json.value?]
          simpa [documentMembers, GoMap.empty] using hnone
      | bool b => simp [Codec.map, Json.normalize]
      | num l => simp [Codec.map, Json.normalize]
      | str s => simp [Codec.map, Json.normalize]
      | arr items => simp [Codec.map, Json.normalize]

/-- What passes when this JSON was looked up. -/
def LooksUp (number : String → ν) (response : String) : Json → Prop
  | .null => True
  | .str s => s.toList <:+: response.toList
  | .obj expected =>
    (∃ actual, readResponse response = some (.obj actual) ∧ MembersFound number actual expected) ∨
      readResponse response = some .null ∧ expected = []
  | _ => False

theorem checkLookedUp_ok_iff {value : Option AnyValue} {response : String} :
    checkLookedUp number lib value response = .ok () ↔
      LooksUp number response (Codec.any.encode value) := by
  unfold checkLookedUp
  cases value with
  | none => exact iff_of_true rfl trivial
  | some v =>
      obtain ⟨j, hcanonical, hnull⟩ := v
      cases j with
      | null => cases hnull
      | str s => exact expect_eq_ok.trans Text.contains_iff
      | bool b => exact iff_of_false (fun h => by cases h) id
      | num l => exact iff_of_false (fun h => by cases h) id
      | arr items => exact iff_of_false (fun h => by cases h) id
      | obj members =>
          obtain ⟨expected, hexpected, hmembers⟩ :=
            Codec.decode_map_of_wellFormed (Json.wellFormed_of_canonical _ hcanonical)
          rw [Json.normalize_of_canonical _ hcanonical] at hmembers
          have hdocument : toDocumentMap (.any ⟨.obj members, hcanonical, hnull⟩) = some expected :=
            hexpected
          show checkBody (lib.comparing number) response (.any ⟨.obj members, hcanonical, hnull⟩)
            = .ok () ↔ _
          unfold checkBody
          dsimp only
          rw [hdocument]
          exact Json.obj.inj hmembers ▸ checkObject_ok_iff

/-- **The executor checks the body that was translated**, when the request could be made and the
    status is the expected one. -/
theorem executeHTTP_eq_checkTranslated {registry : RuntimeRegistry} {built : Config}
    (keys : Plain built) {method path service port endpoint : String} {headers : GoMap String}
    {expectedStatus : Int64} {runtime : ServiceRuntime} {b : ExpectedBody} {world : World}
    {response : String} (hmethod : built.value "method" = .string method)
    (hpath : built.value "path" = .string path) (hservice : built.value "service" = .string service)
    (hport : built.value "port" = .string port)
    (hheaders : built.value "headers" = .strings headers)
    (hstatus : built.value "expected_status" = .int expectedStatus)
    (hbody : built.value "expected_body" = .ofAny (translateExpectedHTTPBody (some b)))
    (hruntime : registry.get? service = some runtime)
    (hendpoint : runtime.endpoint (lib.comparing number) port = .ok endpoint)
    (hrequest : lib.newRequest method ("http://" ++ endpoint ++ path) = .ok ())
    (hdo : world.httpDo = .ok expectedStatus) (hread : world.httpBody = .ok response) :
    executeHTTP (lib.comparing number) registry world built = checkTranslated number lib b response
    := by
  have hnew : (lib.comparing number).newRequest method ("http://" ++ endpoint ++ path) = .ok () :=
    hrequest
  unfold executeHTTP
  simp only [requireText, serviceRuntime, hservice, ConfigValue.text?, require_some, hruntime,
    getStringOrDefault_string (keys "method" (by decide)) hmethod,
    getStringOrDefault_string (keys "path" (by decide)) hpath,
    getStringOrDefault_string (keys "port" (by decide)) hport, hendpoint, hnew, configured_ok,
    ok_bind, mapError_ok, getStringMap_strings (keys "headers" (by decide)) hheaders,
    getInt64Config_int (keys "expected_status" (by decide)) hstatus,
    lookupConfigValue_eq (keys "expected_body" (by decide)), hdo, hread, answered, expect,
    decide_true, if_true, hbody]
  rfl

/-! ## Responses that tell the checks apart -/

/-- A response that is the text of a value in memory. -/
theorem readResponse_marshal {j : Json} (h : j.canonical = true) :
    readResponse j.marshal = some j := by
  unfold readResponse
  rw [Json.parse_marshal j (Json.wellFormed_of_canonical j h), Option.map_some,
    Json.normalize_of_canonical j h]

/-- A text with another letter in front is no JSON. -/
theorem readResponse_letter (s : String) : readResponse ("x" ++ s) = none := by
  have htext : ("x" ++ s).toList = 'x' :: s.toList := by
    rw [String.toList_append]
    rfl
  have hvalue : ∀ n, Json.parseValue (n + 1) ('x' :: s.toList) = none := by
    intro n
    rw [Json.parseValue, Json.skipBlanks_cons (by decide)]
    rfl
  unfold readResponse Json.parse
  rw [htext, hvalue]
  rfl

/-- How a mode other than `contains` compares the response with the JSON that is expected. -/
def comparison (number : String → ν) (mode : String) : Json → Json → Bool :=
  if mode = "json_partial" then Json.includes number else Json.equal number

theorem bodyMeets_contains {b : ExpectedBody} (h : b.mode = "contains") (response : String) :
    BodyMeets number b response ↔ (expectedText b.value).toList <:+: response.toList := by
  unfold BodyMeets
  rw [h]
  exact Iff.rfl

theorem bodyMeets_json {b : ExpectedBody} (h : b.mode ≠ "contains") (response : String) :
    BodyMeets number b response ↔ ∃ actual expected, readResponse response = some actual ∧
      expectedJson b.value = some expected ∧ comparison number b.mode actual expected = true := by
  unfold BodyMeets comparison
  split
  · rename_i hmode
    exact absurd hmode h
  · rename_i hmode
    rw [hmode, if_pos rfl]
  · rename_i hmode
    rw [if_neg hmode]

/-- **Some response is what a mode of JSON asks for.** -/
theorem exists_meeting (number : String → ν) (mode : String) {expected : Json}
    (h : expected.canonical = true) :
    ∃ actual response, readResponse response = some actual ∧
      comparison number mode actual expected = true := by
  unfold comparison
  split_ifs
  · exact ⟨_, _, readResponse_marshal (Json.canonical_enlarge expected h),
      Json.includes_enlarge expected h⟩
  · exact ⟨_, _, readResponse_marshal h, Json.equal_refl expected⟩

/-- A check passes on what a comparison says of the response in JSON. -/
def Decides (number : String → ν) (mode : String) (expected lookedUp : Json) : Prop :=
  ∀ response, LooksUp number response lookedUp ↔
    ∃ actual, readResponse response = some actual ∧ comparison number mode actual expected = true

theorem not_decides_null {mode : String} : ¬Decides number mode .null .null := by
  intro h
  obtain ⟨actual, hread, -⟩ := (h "").1 trivial
  cases hread

theorem not_decides_str {mode : String} (s : String) : ¬Decides number mode (.str s) (.str s) := by
  intro h
  have hin : s.toList <:+: ("x" ++ s).toList := by
    rw [String.toList_append]
    exact (List.suffix_append _ _).isInfix
  obtain ⟨actual, hread, -⟩ := (h ("x" ++ s)).1 hin
  rw [readResponse_letter] at hread
  cases hread

/-- A value of which the executor knows no check fails on every response. -/
theorem not_decides_unsupported {mode : String} {expected : Json}
    (hcanonical : expected.canonical = true) (hno : ∀ response, ¬LooksUp number response expected) :
    ¬Decides number mode expected expected := by
  intro h
  obtain ⟨actual, response, hread, hcomparison⟩ := exists_meeting number mode hcanonical
  exact hno response ((h response).2 ⟨actual, hread, hcomparison⟩)

/-- An object is never compared as a whole. -/
theorem not_decides_whole {mode : String} (hmode : mode ≠ "json_partial")
    {members : List (String × Json)} (hcanonical : (Json.obj members).canonical = true) :
    ¬Decides number mode (.obj members) (.obj members) := by
  intro h
  have hread := readResponse_marshal (Json.canonical_addMember hcanonical)
  have hsorted := hcanonical
  rw [Json.canonical, Bool.and_eq_true, decide_eq_true_eq] at hsorted
  have hfound : MembersFound number (Json.addMember members) members := fun m hm =>
    ⟨m.2, Json.value?_addMember (Json.value?_of_mem hsorted.1 hm), Json.equal_refl m.2⟩
  obtain ⟨actual, hactual, hcomparison⟩ := (h _).1 (.inl ⟨_, hread, hfound⟩)
  obtain rfl := Option.some.inj (hread.symm.trans hactual)
  rw [comparison, if_neg hmode, Json.equal_addMember] at hcomparison
  cases hcomparison

/-- **Members of an object are compared as a part of it** if there are some, and no object is one of
    them or in one of them. -/
theorem decides_partial_iff {members : List (String × Json)}
    (hcanonical : (Json.obj members).canonical = true) :
    Decides number "json_partial" (.obj members) (.obj members) ↔
      members ≠ [] ∧ ∀ m ∈ members, Json.flat m.2 = true := by
  have hcomparison : comparison number "json_partial" = Json.includes number := if_pos rfl
  unfold Decides
  rw [hcomparison]
  constructor
  · intro h
    constructor
    · rintro rfl
      -- the response `null` has no members, like the object
      have hnull : readResponse Json.null.marshal = some .null := readResponse_marshal rfl
      obtain ⟨actual, hread, hincludes⟩ := (h _).1 (.inr ⟨hnull, rfl⟩)
      obtain rfl := Option.some.inj (hnull.symm.trans hread)
      simp [Json.includes] at hincludes
    · intro m hm
      have hread := readResponse_marshal (Json.canonical_enlarge _ hcanonical)
      have hsorted := hcanonical
      rw [Json.canonical, Bool.and_eq_true, decide_eq_true_eq] at hsorted
      rcases (h _).2 ⟨_, hread, Json.includes_enlarge _ hcanonical⟩ with
        ⟨actual, hactual, hfound⟩ | ⟨hnull, -⟩
      · obtain ⟨a, hvalue, hequal⟩ := hfound m hm
        rw [hread, Json.enlarge, Option.some.injEq, Json.obj.injEq] at hactual
        rw [← hactual, Json.value?_enlarged hsorted.1 hm] at hvalue
        obtain rfl := Option.some.inj hvalue
        rwa [Json.equal_enlarge] at hequal
      · rw [hread, Json.enlarge] at hnull
        cases hnull
  · rintro ⟨hne, hflat⟩ response
    have hmembers : ∀ actual, MembersFound number actual members ↔
        Json.includes number (.obj actual) (.obj members) = true := by
      intro actual
      rw [Json.includes, Json.includesMembers_iff]
      refine forall₂_congr fun m hm => exists_congr fun a => and_congr_right fun _ => ?_
      rw [Json.includes_eq_equal m.2 a (hflat m hm)]
    constructor
    · rintro (⟨actual, hread, hfound⟩ | ⟨-, hnil⟩)
      · exact ⟨.obj actual, hread, (hmembers actual).1 hfound⟩
      · exact absurd hnil hne
    · rintro ⟨actual, hread, hincludes⟩
      cases actual with
      | obj actual => exact .inl ⟨actual, hread, (hmembers actual).2 hincludes⟩
      | _ => simp [Json.includes] at hincludes

/-- **The mode is followed** exactly by bodies that are texts to look for, or members of an object
    with no object in them. -/
theorem checkedByMode_iff (number : String → ν) (lib : Libraries) (b : ExpectedBody) :
    CheckedByMode number lib b ↔ ShallowBody b := by
  unfold CheckedByMode checkTranslated
  simp only [checkLookedUp_ok_iff]
  by_cases hmode : b.mode = "contains"
  · refine iff_of_true (fun response => ?_) (.inl hmode)
    rw [translate_contains hmode, bodyMeets_contains hmode]
    rfl
  rw [encode_translate hmode]
  simp only [bodyMeets_json hmode]
  cases hexpected : expectedJson b.value with
  | none =>
      refine iff_of_false (fun h => ?_) ?_
      · -- any object passes
        obtain ⟨actual, expected, -, hnone, -⟩ := (h (Json.obj []).marshal).1
          (.inl ⟨[], readResponse_marshal rfl, fun m hm => absurd hm List.not_mem_nil⟩)
        cases hnone
      · rintro (h | ⟨-, members, hmembers, -⟩)
        · exact hmode h
        · rw [hexpected] at hmembers
          cases hmembers
  | some expected =>
      have hcanonical := canonical_expectedJson hexpected
      have hdecides : (∀ response, LooksUp number response ((some expected).getD (.obj [])) ↔
          ∃ actual expected', readResponse response = some actual ∧ some expected = some expected' ∧
            comparison number b.mode actual expected' = true) ↔
          Decides number b.mode expected expected := by
        refine forall_congr' fun response => iff_congr Iff.rfl (exists_congr fun actual => ?_)
        exact ⟨fun ⟨_, hread, he, h⟩ => ⟨hread, Option.some.inj he ▸ h⟩,
          fun ⟨hread, h⟩ => ⟨expected, hread, rfl, h⟩⟩
      have hshallow : ShallowBody b ↔ b.mode = "json_partial" ∧ ∃ members,
          expected = .obj members ∧ members ≠ [] ∧ ∀ m ∈ members, Json.flat m.2 = true := by
        unfold ShallowBody
        rw [hexpected]
        simp [hmode]
      rw [hdecides, hshallow]
      cases expected with
      | null => exact iff_of_false not_decides_null (by simp)
      | str s => exact iff_of_false (not_decides_str s) (by simp)
      | bool t => exact iff_of_false (not_decides_unsupported hcanonical fun _ h => h) (by simp)
      | num l => exact iff_of_false (not_decides_unsupported hcanonical fun _ h => h) (by simp)
      | arr items => exact iff_of_false (not_decides_unsupported hcanonical fun _ h => h) (by simp)
      | obj members =>
          by_cases hpart : b.mode = "json_partial"
          · rw [hpart, decides_partial_iff hcanonical]
            simp
          · exact iff_of_false (not_decides_whole hpart hcanonical) fun h => hpart h.1

end Bodies

/-- The whole object that a response is expected to be. -/
def wholeBody : ExpectedBody where
  mode := "json"
  value := some ⟨.obj [("id", .str "1")], by decide +kernel, rfl⟩

/-- A response with another member passes as equal. -/
theorem other_member_passes :
    checkTranslated id textLibraries wholeBody "\x7b\"extra\":true,\"id\":\"1\"\x7d" = .ok () ∧
      ¬CheckedByMode id textLibraries wholeBody := by
  have hpass : checkTranslated id textLibraries wholeBody
      "\x7b\"extra\":true,\"id\":\"1\"\x7d" = .ok () := by decide +kernel
  have htext : (Json.obj [("extra", .bool true), ("id", .str "1")]).marshal
      = "\x7b\"extra\":true,\"id\":\"1\"\x7d" := by decide +kernel
  refine ⟨hpass, fun h => ?_⟩
  obtain ⟨actual, expected, hread, hexpected, hequal⟩ := (h _).1 hpass
  rw [← htext, readResponse_marshal (by decide +kernel)] at hread
  obtain rfl := Option.some.inj hread
  obtain rfl : Json.obj [("id", .str "1")] = expected := Option.some.inj hexpected
  simp [Json.equal, Json.equalMembers] at hequal

end TokyoTester
