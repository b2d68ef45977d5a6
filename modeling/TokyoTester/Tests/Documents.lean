import TokyoTester.Tests.Values

set_option autoImplicit false

/-! # Partial matches of documents (`matchesPartialDocument`)

An expected document is matched member by member: two documents recursively, everything else by
`compareValues`. What is stored comes back with the types of the driver: arrays as `bson.A`, the
document itself as `bson.M`, and the documents in it as one of the two document types. -/

namespace TokyoTester

section Documents

variable (float : String → ℚ)

/-- `toDocumentMap`. -/
def toDocumentEntries : GoValue → Option (List (String × GoValue))
  | .anyMap entries => some entries
  | .bsonM entries => some entries
  | _ => none

mutual

/-- One member of `matchesPartialDocument`; `none` is a panic. -/
def matchesPartialValue (actual : GoValue) : Json → Option Bool
  | .obj expected =>
    match toDocumentEntries actual with
    | some actualDoc => matchesPartialDocument actualDoc expected
    | none => compareValues float actual (.obj expected)
  | .null => compareValues float actual .null
  | .bool b => compareValues float actual (.bool b)
  | .num literal => compareValues float actual (.num literal)
  | .str s => compareValues float actual (.str s)
  | .arr items => compareValues float actual (.arr items)

/-- `matchesPartialDocument`. Go ranges over the members in any order, so a match is one in each of
    them, and a panic may come before a mismatch. -/
def matchesPartialDocument (actual : List (String × GoValue)) :
    List (String × Json) → Option Bool
  | [] => some true
  | (key, expectedValue) :: rest =>
    match actual.lookup key with
    | none => some false
    | some actualValue =>
      match matchesPartialValue actualValue expectedValue with
      | some true => matchesPartialDocument actual rest
      | result => result

end

/-! ## Storing and reading back -/

/-- The type that the driver gives to embedded documents. -/
inductive DocumentType where
  | bsonM
  | bsonD
deriving DecidableEq

def DocumentType.of : DocumentType → List (String × GoValue) → GoValue
  | bsonM => .bsonM
  | bsonD => .bsonD

variable (embedded : DocumentType)

mutual

/-- A value of a document after it was stored. -/
def readBack : Json → GoValue
  | .null => .nil
  | .bool b => .bool b
  | .num literal => .float64 (.finite (float literal))
  | .str s => .string (textBytes s)
  | .arr items => .bsonA (readBackItems items)
  | .obj members => embedded.of (readBackMembers members)

def readBackItems : List Json → List GoValue
  | [] => []
  | x :: xs => readBack x :: readBackItems xs

def readBackMembers : List (String × Json) → List (String × GoValue)
  | [] => []
  | (k, v) :: rest => (k, readBack v) :: readBackMembers rest

end

mutual

/-- An expected value, taken as an actual one. -/
def ofJson : Json → GoValue
  | .null => .nil
  | .bool b => .bool b
  | .num literal => .float64 (.finite (float literal))
  | .str s => .string (textBytes s)
  | .arr items => .anys (ofJsonItems items)
  | .obj members => .anyMap (ofJsonMembers members)

def ofJsonItems : List Json → List GoValue
  | [] => []
  | x :: xs => ofJson x :: ofJsonItems xs

def ofJsonMembers : List (String × Json) → List (String × GoValue)
  | [] => []
  | (k, v) :: rest => (k, ofJson v) :: ofJsonMembers rest

end

/-- A document that was read from JSON. -/
structure JsonDocument where
  members : List (String × Json)
  canonical : (Json.obj members).canonical = true

/-- The stored document: the store adds an id if there is none. -/
def JsonDocument.stored (d : JsonDocument) (id : GoValue) : List (String × GoValue) :=
  readBackMembers float embedded d.members ++
    if d.members.any fun m => m.1 = "_id" then [] else [("_id", id)]

/-- The stored document matches the expected one. -/
def Matches (actual : List (String × GoValue)) (expected : JsonDocument) : Prop :=
  matchesPartialDocument float actual expected.members = some true

/-! ## What comes back as it was -/

mutual

/-- There is no array in the value, and no embedded document unless these come back as `bson.M`. -/
def comparable : Json → Bool
  | .arr _ => false
  | .obj members => embedded = .bsonM && comparableMembers members
  | .null => true
  | .bool _ => true
  | .num _ => true
  | .str _ => true

def comparableMembers : List (String × Json) → Bool
  | [] => true
  | (_, v) :: rest => comparable v && comparableMembers rest

end

variable {float embedded}

/-- A match of two documents is one of each member. -/
theorem matchesPartialDocument_iff {actual : List (String × GoValue)}
    {expected : List (String × Json)} :
    matchesPartialDocument float actual expected = some true ↔
      ∀ m ∈ expected, ∃ value, actual.lookup m.1 = some value ∧
        matchesPartialValue float value m.2 = some true := by
  induction expected with
  | nil => simp [matchesPartialDocument]
  | cons m rest ih =>
      obtain ⟨key, expectedValue⟩ := m
      rw [matchesPartialDocument, List.forall_mem_cons]
      cases hlookup : actual.lookup key with
      | none => simp
      | some value =>
          rcases hvalue : matchesPartialValue float value expectedValue with _ | _ | _
          · simp [hvalue]
          · simp [hvalue]
          · simp [hvalue, ih]

/-- A match of a value that is not a document. -/
theorem matchesPartialValue_of_not_obj {actual : GoValue} {expected : Json}
    (h : ∀ members, expected ≠ .obj members) :
    matchesPartialValue float actual expected = some true ↔ SameValue float actual expected := by
  rw [← compareValues_eq_true_iff]
  cases expected with
  | obj members => exact absurd rfl (h members)
  | _ => rw [matchesPartialValue]

/-- A match of a value with a document: the value is a document too. -/
theorem matchesPartialValue_obj {actual : GoValue} {members : List (String × Json)} :
    matchesPartialValue float actual (.obj members) = some true ↔
      ∃ doc, toDocumentEntries actual = some doc ∧
        matchesPartialDocument float doc members = some true := by
  rw [matchesPartialValue]
  cases toDocumentEntries actual with
  | none =>
      rw [compareValues_eq_true_iff]
      simp [SameValue]
  | some doc => simp

/-! ## Reading back -/

theorem lookup_readBackMembers {members : List (String × Json)} {m : String × Json}
    (hnodup : (members.map Prod.fst).Nodup) (hm : m ∈ members) :
    (readBackMembers float embedded members).lookup m.1 = some (readBack float embedded m.2) := by
  induction members with
  | nil => cases hm
  | cons n rest ih =>
      rw [List.map_cons, List.nodup_cons] at hnodup
      rw [readBackMembers, List.lookup_cons]
      rcases List.mem_cons.1 hm with rfl | hm
      · simp
      · have hne : m.1 ≠ n.1 := fun heq => hnodup.1 (heq ▸ List.mem_map_of_mem hm)
        rw [beq_false_of_ne hne]
        exact ih hnodup.2 hm

/-- A document that was read back, perhaps with more members, matches its own members one by one. -/
theorem matches_readBackMembers_iff {members : List (String × Json)}
    (hnodup : (members.map Prod.fst).Nodup) (more : List (String × GoValue)) :
    matchesPartialDocument float (readBackMembers float embedded members ++ more) members
        = some true ↔
      ∀ m ∈ members, matchesPartialValue float (readBack float embedded m.2) m.2 = some true := by
  rw [matchesPartialDocument_iff]
  refine forall₂_congr fun m hm => ?_
  rw [List.lookup_append, lookup_readBackMembers hnodup hm]
  simp

theorem nodup_of_canonical {members : List (String × Json)}
    (h : (Json.obj members).canonical = true) : (members.map Prod.fst).Nodup := by
  rw [Json.canonical, Bool.and_eq_true, decide_eq_true_eq] at h
  exact List.pairwise_map.2 (h.1.imp fun hlt => ne_of_lt hlt)

theorem canonicalMembers_of_canonical {members : List (String × Json)}
    (h : (Json.obj members).canonical = true) : Json.canonicalMembers members = true := by
  rw [Json.canonical, Bool.and_eq_true] at h
  exact h.2

mutual

/-- **A value that was read back matches itself** if and only if it is comparable. -/
theorem matches_readBack_iff : ∀ e : Json, e.canonical = true →
    (matchesPartialValue float (readBack float embedded e) e = some true ↔
      comparable embedded e = true)
  | .null, _ => by
      rw [matchesPartialValue_of_not_obj (by simp)]
      simp [readBack, SameValue, comparable]
  | .bool b, _ => by
      rw [matchesPartialValue_of_not_obj (by simp)]
      simp [readBack, SameValue, comparable]
  | .num literal, _ => by
      rw [matchesPartialValue_of_not_obj (by simp)]
      simp [readBack, SameValue, comparable, GoValue.convertToFloat64]
  | .str s, _ => by
      rw [matchesPartialValue_of_not_obj (by simp)]
      simp [readBack, SameValue, comparable, GoValue.convertToString]
  | .arr items, _ => by
      rw [matchesPartialValue_of_not_obj (by simp)]
      simp [SameValue, comparable]
  | .obj members, h => by
      have hmembers : matchesPartialDocument float (readBackMembers float embedded members ++ [])
          members = some true ↔ _ := matches_readBackMembers_iff (nodup_of_canonical h) []
      rw [List.append_nil, matches_readBackEach_iff members (canonicalMembers_of_canonical h)]
        at hmembers
      rw [matchesPartialValue_obj, readBack]
      cases embedded with
      | bsonD => simp [DocumentType.of, toDocumentEntries, comparable]
      | bsonM => simp [DocumentType.of, toDocumentEntries, comparable, hmembers]

theorem matches_readBackEach_iff :
    ∀ members : List (String × Json), Json.canonicalMembers members = true →
      ((∀ m ∈ members,
          matchesPartialValue float (readBack float embedded m.2) m.2 = some true) ↔
        comparableMembers embedded members = true)
  | [], _ => by simp [comparableMembers]
  | (k, v) :: rest, h => by
      rw [Json.canonicalMembers, Bool.and_eq_true] at h
      rw [List.forall_mem_cons, matches_readBack_iff v h.1, matches_readBackEach_iff rest h.2,
        comparableMembers, Bool.and_eq_true]

end

/-- **Reading back is reflexive** exactly on comparable documents. -/
theorem matches_stored_iff (d : JsonDocument) (id : GoValue) :
    Matches float (d.stored float embedded id) d ↔ comparableMembers embedded d.members = true := by
  unfold Matches JsonDocument.stored
  rw [matches_readBackMembers_iff (nodup_of_canonical d.canonical),
    matches_readBackEach_iff d.members (canonicalMembers_of_canonical d.canonical)]

/-! ## Transitivity -/

theorem lookup_ofJsonMembers (members : List (String × Json)) (key : String) :
    (ofJsonMembers float members).lookup key = (members.lookup key).map (ofJson float) := by
  induction members with
  | nil => rfl
  | cons m rest ih =>
      rw [ofJsonMembers, List.lookup_cons, List.lookup_cons]
      split
      · rfl
      · exact ih

/-- A value that is equal to an expected one, which is equal to another expected one. -/
theorem SameValue.trans {actual : GoValue} {e f : Json} (h : SameValue float actual e)
    (h' : SameValue float (ofJson float e) f) : SameValue float actual f := by
  cases f with
  | null => cases e <;> simp_all [SameValue, ofJson]
  | bool b => cases e <;> simp_all [SameValue, ofJson]
  | num literal => cases e <;> simp_all [SameValue, ofJson, GoValue.convertToFloat64]
  | str s => cases e <;> simp_all [SameValue, ofJson, GoValue.convertToString]
  | arr items => exact h'.elim
  | obj members => exact h'.elim

theorem matchesPartialValue_trans_of_not_obj {actual : GoValue} {e f : Json}
    (hf : ∀ members, f ≠ .obj members)
    (h : matchesPartialValue float actual e = some true)
    (h' : matchesPartialValue float (ofJson float e) f = some true) :
    matchesPartialValue float actual f = some true := by
  rw [matchesPartialValue_of_not_obj hf] at h' ⊢
  have he : ∀ members, e ≠ .obj members := by
    rintro members rfl
    cases f with
    | obj fm => exact hf fm rfl
    | _ => simp [SameValue, ofJson, GoValue.convertToString, GoValue.convertToFloat64] at h'
  rw [matchesPartialValue_of_not_obj he] at h
  exact h.trans h'

mutual

/-- **Matching a value is transitive.** -/
theorem matchesPartialValue_trans : ∀ (f : Json) {actual : GoValue} {e : Json},
    matchesPartialValue float actual e = some true →
      matchesPartialValue float (ofJson float e) f = some true →
        matchesPartialValue float actual f = some true
  | .obj fm, actual, e, h, h' => by
      rw [matchesPartialValue_obj] at h' ⊢
      obtain ⟨doc', hdoc', hmatch'⟩ := h'
      -- the value between is a document
      cases e with
      | obj em =>
          rw [matchesPartialValue_obj] at h
          obtain ⟨doc, hdoc, hmatch⟩ := h
          obtain rfl := Option.some.inj hdoc'
          exact ⟨doc, hdoc, matchesPartialDocument_trans fm hmatch hmatch'⟩
      | _ => simp [ofJson, toDocumentEntries] at hdoc'
  | .null, _, _, h, h' => matchesPartialValue_trans_of_not_obj (by simp) h h'
  | .bool b, _, _, h, h' => matchesPartialValue_trans_of_not_obj (by simp) h h'
  | .num literal, _, _, h, h' => matchesPartialValue_trans_of_not_obj (by simp) h h'
  | .str s, _, _, h, h' => matchesPartialValue_trans_of_not_obj (by simp) h h'
  | .arr items, _, _, h, h' => matchesPartialValue_trans_of_not_obj (by simp) h h'

theorem matchesPartialDocument_trans : ∀ (f : List (String × Json))
    {actual : List (String × GoValue)} {e : List (String × Json)},
    matchesPartialDocument float actual e = some true →
      matchesPartialDocument float (ofJsonMembers float e) f = some true →
        matchesPartialDocument float actual f = some true
  | [], _, _, _, _ => by rw [matchesPartialDocument]
  | (key, fv) :: rest, actual, e, h, h' => by
      rw [matchesPartialDocument_iff, List.forall_mem_cons] at h' ⊢
      obtain ⟨⟨value', hlookup', hmatch'⟩, hrest⟩ := h'
      rw [lookup_ofJsonMembers, Option.map_eq_some_iff] at hlookup'
      obtain ⟨ev, hlookup', rfl⟩ := hlookup'
      -- the expected document has a value under the key, and so the actual one has
      have hmem : (key, ev) ∈ e := by
        obtain ⟨before, after, rfl, -⟩ := List.lookup_eq_some_iff.1 hlookup'
        simp
      obtain ⟨value, hlookup, hmatch⟩ := matchesPartialDocument_iff.1 h (key, ev) hmem
      refine ⟨⟨value, hlookup, matchesPartialValue_trans fv hmatch hmatch'⟩, ?_⟩
      exact matchesPartialDocument_iff.1
        (matchesPartialDocument_trans rest h (matchesPartialDocument_iff.2 hrest))

end

/-- Partial matches are reflexive on a document, and transitive from it. -/
def ReflexiveAndTransitive (float : String → ℚ) (embedded : DocumentType) (d : JsonDocument) :
    Prop :=
  (∀ id, Matches float (d.stored float embedded id) d) ∧
    ∀ stored (e f : JsonDocument), Matches float stored e →
      Matches float (ofJsonMembers float e.members) f → Matches float stored f

/-- **Partial matches are transitive, and reflexive** on a document if and only if there is no array
    in it, and no embedded document unless the driver gives these the type `bson.M`. -/
theorem partial_match_iff (float : String → ℚ) (embedded : DocumentType) (d : JsonDocument) :
    ReflexiveAndTransitive float embedded d ↔ comparableMembers embedded d.members = true := by
  constructor
  · intro h
    exact (matches_stored_iff d .nil).1 (h.1 .nil)
  · intro h
    refine ⟨fun id => (matches_stored_iff d id).2 h, fun stored e f hmatch hmatch' => ?_⟩
    exact matchesPartialDocument_trans f.members hmatch hmatch'

end Documents

/-- A document with an array. -/
def taggedDocument : JsonDocument where
  members := [("tags", .arr [.str "a"])]
  canonical := by decide +kernel

/-- Read back, it does not match itself: a `bson.A` is not a `[]any`. -/
theorem tagged_not_reflexive :
    matchesPartialDocument (fun _ => 0)
        (taggedDocument.stored (fun _ => 0) .bsonM (.stringer (textBytes "id")))
        taggedDocument.members = some false ∧
      ¬ReflexiveAndTransitive (fun _ => 0) .bsonM taggedDocument := by
  have hno : matchesPartialDocument (fun _ => 0)
      (taggedDocument.stored (fun _ => 0) .bsonM (.stringer (textBytes "id")))
      taggedDocument.members = some false := by decide +kernel
  refine ⟨hno, fun h => ?_⟩
  have hmatch := h.1 (.stringer (textBytes "id"))
  unfold Matches at hmatch
  rw [hno] at hmatch
  cases hmatch

end TokyoTester
