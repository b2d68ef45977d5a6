import TokyoTester.Library.Codec

set_option autoImplicit false

/-! # What the JSON parser accepts

A value that was parsed is well formed, and so it is canonical once it is held in memory: reading
it into an `any`, or an object into a map, does not fail any more. -/

namespace Json

/-! ## Parsed values are well formed -/

/-- What the parser of values finds within a budget. -/
def FindsValues (fuel : Nat) : Prop :=
  ∀ cs j rest, parseValue fuel cs = some (j, rest) → j.wellFormed = true

def FindsItems (fuel : Nat) : Prop :=
  ∀ cs xs rest, parseItems fuel cs = some (xs, rest) → wellFormedItems xs = true

def FindsMembers (fuel : Nat) : Prop :=
  ∀ cs kvs rest, parseMembers fuel cs = some (kvs, rest) → wellFormedMembers kvs = true

theorem parseNumber_wellFormed {cs rest : List Char} {j : Json}
    (h : parseNumber cs = some (j, rest)) : j.wellFormed = true := by
  unfold parseNumber at h
  split_ifs at h with hnumber
  obtain ⟨rfl, -⟩ := Prod.mk.inj (Option.some.inj h)
  rw [wellFormed, String.toList_ofList]
  exact hnumber

theorem findsValues_succ {n : Nat} (hitems : FindsItems n) (hmembers : FindsMembers n) :
    FindsValues (n + 1) := by
  intro cs j rest h
  rw [parseValue] at h
  split at h
  · obtain ⟨rfl, -⟩ := Prod.mk.inj (Option.some.inj h)
    rfl
  · obtain ⟨rfl, -⟩ := Prod.mk.inj (Option.some.inj h)
    rfl
  · obtain ⟨rfl, -⟩ := Prod.mk.inj (Option.some.inj h)
    rfl
  · obtain ⟨p, -, hp⟩ := Option.map_eq_some_iff.1 h
    obtain ⟨rfl, -⟩ := Prod.mk.inj hp
    rfl
  · split at h
    · obtain ⟨rfl, -⟩ := Prod.mk.inj (Option.some.inj h)
      rfl
    · obtain ⟨p, hitem, hp⟩ := Option.map_eq_some_iff.1 h
      obtain ⟨rfl, -⟩ := Prod.mk.inj hp
      rw [wellFormed]
      exact hitems _ _ _ hitem
  · split at h
    · obtain ⟨rfl, -⟩ := Prod.mk.inj (Option.some.inj h)
      rfl
    · obtain ⟨p, hmember, hp⟩ := Option.map_eq_some_iff.1 h
      obtain ⟨rfl, -⟩ := Prod.mk.inj hp
      rw [wellFormed]
      exact hmembers _ _ _ hmember
  · exact parseNumber_wellFormed h

theorem findsItems_succ {n : Nat} (hvalues : FindsValues n) (hitems : FindsItems n) :
    FindsItems (n + 1) := by
  intro cs xs rest h
  rw [parseItems] at h
  split at h
  · cases h
  · rename_i x after hvalue
    have hx := hvalues _ _ _ hvalue
    split at h
    · obtain ⟨p, hmore, hp⟩ := Option.map_eq_some_iff.1 h
      obtain ⟨rfl, -⟩ := Prod.mk.inj hp
      rw [wellFormedItems, hx, hitems _ _ _ hmore]
      rfl
    · obtain ⟨rfl, -⟩ := Prod.mk.inj (Option.some.inj h)
      rw [wellFormedItems, hx]
      rfl
    · cases h

theorem findsMembers_succ {n : Nat} (hvalues : FindsValues n) (hmembers : FindsMembers n) :
    FindsMembers (n + 1) := by
  intro cs kvs rest h
  rw [parseMembers] at h
  split at h
  · split at h
    · cases h
    · split at h
      · split at h
        · cases h
        · rename_i v after hvalue
          have hv := hvalues _ _ _ hvalue
          split at h
          · obtain ⟨p, hmore, hp⟩ := Option.map_eq_some_iff.1 h
            obtain ⟨rfl, -⟩ := Prod.mk.inj hp
            rw [wellFormedMembers, hv, hmembers _ _ _ hmore]
            rfl
          · obtain ⟨rfl, -⟩ := Prod.mk.inj (Option.some.inj h)
            rw [wellFormedMembers, hv]
            rfl
          · cases h
      · cases h
  · cases h

-- The induction follows the parser's own recursion, on the budget.
theorem finds_all (fuel : Nat) : FindsValues fuel ∧ FindsItems fuel ∧ FindsMembers fuel := by
  induction fuel with
  | zero =>
      refine ⟨?_, ?_, ?_⟩
      · intro cs j rest h
        cases h
      · intro cs xs rest h
        cases h
      · intro cs kvs rest h
        cases h
  | succ n ih =>
      obtain ⟨hvalues, hitems, hmembers⟩ := ih
      exact ⟨findsValues_succ hitems hmembers, findsItems_succ hvalues hitems,
        findsMembers_succ hvalues hmembers⟩

/-- **What was parsed is well formed.** -/
theorem wellFormed_of_parse {text : String} {j : Json} (h : parse text = some j) :
    j.wellFormed = true := by
  unfold parse at h
  split at h
  · rename_i k rest hvalue
    split_ifs at h
    obtain rfl := Option.some.inj h
    exact (finds_all _).1 _ _ _ hvalue
  · cases h

/-! ## In memory -/

theorem canonicalMembers_iff {ms : List (String × Json)} :
    canonicalMembers ms = true ↔ ∀ m ∈ ms, m.2.canonical = true := by
  induction ms with
  | nil => simp [canonicalMembers]
  | cons m ms ih => simp [canonicalMembers, ih]

mutual

/-- **A well-formed value is canonical in memory.** -/
theorem canonical_normalize : ∀ j : Json, j.wellFormed = true → j.normalize.canonical = true
  | null, _ => by rw [normalize, canonical]
  | bool _, _ => by rw [normalize, canonical]
  | num _, h => by
      rw [normalize, canonical]
      rwa [wellFormed] at h
  | str _, _ => by rw [normalize, canonical]
  | arr items, h => by
      rw [wellFormed] at h
      rw [normalize, canonical, canonicalItems_normalize items h]
  | obj members, h => by
      rw [wellFormed] at h
      rw [normalize, canonical, Bool.and_eq_true, decide_eq_true_eq, canonicalMembers_iff]
      refine ⟨GoMap.sorted_insertAll _ [] List.Pairwise.nil, fun m hm => ?_⟩
      have hmem := (GoMap.mem_insertAll _ [] hm).resolve_right List.not_mem_nil
      exact canonicalMembers_iff.1 (canonicalMembers_normalize members h) m hmem

theorem canonicalItems_normalize :
    ∀ xs : List Json, wellFormedItems xs = true → canonicalItems (normalizeItems xs) = true
  | [], _ => by rw [normalizeItems, canonicalItems]
  | x :: xs, h => by
      rw [wellFormedItems, Bool.and_eq_true] at h
      rw [normalizeItems, canonicalItems, canonical_normalize x h.1,
        canonicalItems_normalize xs h.2]
      rfl

theorem canonicalMembers_normalize :
    ∀ ms : List (String × Json), wellFormedMembers ms = true →
      canonicalMembers (normalizeMembers ms) = true
  | [], _ => by rw [normalizeMembers, canonicalMembers]
  | (k, v) :: ms, h => by
      rw [wellFormedMembers, Bool.and_eq_true] at h
      rw [normalizeMembers, canonicalMembers, canonical_normalize v h.1,
        canonicalMembers_normalize ms h.2]
      rfl

end

end Json

namespace GoMap

variable {α β : Type}

theorem insertEntry_map (f : α → β) (k : String) (v : α) (xs : List (String × α)) :
    insertEntry k (f v) (xs.map fun x => (x.1, f x.2)) =
      (insertEntry k v xs).map fun x => (x.1, f x.2) := by
  induction xs with
  | nil => rfl
  | cons x xs ih =>
      unfold insertEntry
      rw [List.map_cons]
      dsimp only
      split_ifs
      · rfl
      · rfl
      · rw [List.map_cons]
        exact congrArg _ ih

theorem insertAll_map (f : α → β) (xs acc : List (String × α)) :
    insertAll (xs.map fun x => (x.1, f x.2)) (acc.map fun x => (x.1, f x.2)) =
      (insertAll xs acc).map fun x => (x.1, f x.2) := by
  induction xs generalizing acc with
  | nil => rfl
  | cons x xs ih =>
      show insertAll (xs.map fun x => (x.1, f x.2)) (insertEntry x.1 (f x.2) _) = _
      rw [insertEntry_map, ih]
      rfl

end GoMap

namespace Codec

/-- Reading a well-formed value into an `any`. -/
theorem readAny_of_wellFormed {j : Json} (h : j.wellFormed = true) :
    ∃ v, readAny j = some v ∧ any.encode v = j.normalize := by
  unfold readAny
  split_ifs with hnull hcanonical
  · exact ⟨_, rfl, rfl⟩
  · exact absurd (Json.canonical_normalize j h) hcanonical
  · refine ⟨none, rfl, ?_⟩
    cases hj : j.normalize with
    | null => rfl
    | _ => simp [hj, Json.isNull] at hnull

theorem decodeMembers_of_wellFormed {ms : List (String × Json)}
    (h : Json.wellFormedMembers ms = true) :
    ∃ xs, decodeMembers any ms = some xs ∧
      (xs.map fun x => (x.1, any.encode x.2)) = Json.normalizeMembers ms := by
  induction ms with
  | nil => exact ⟨[], rfl, by rw [Json.normalizeMembers]; rfl⟩
  | cons m ms ih =>
      obtain ⟨k, j⟩ := m
      rw [Json.wellFormedMembers, Bool.and_eq_true] at h
      obtain ⟨v, hv, hencode⟩ := readAny_of_wellFormed h.1
      obtain ⟨xs, hxs, hmap⟩ := ih h.2
      have hdecode : any.decode j = some v := hv
      unfold decodeMembers at hxs ⊢
      refine ⟨(k, v) :: xs, ?_, ?_⟩
      · rw [List.mapM_cons, hdecode, hxs]
        rfl
      · rw [List.map_cons, hencode, hmap, Json.normalizeMembers]

/-- **Reading a well-formed object into a map** gives the object as it is in memory. -/
theorem decode_map_of_wellFormed {ms : List (String × Json)}
    (h : (Json.obj ms).wellFormed = true) :
    ∃ m, (map any).decode (.obj ms) = some m ∧
      Json.obj (m.entries.map fun x => (x.1, any.encode x.2)) = (Json.obj ms).normalize := by
  rw [Json.wellFormed] at h
  obtain ⟨xs, hxs, hmap⟩ := decodeMembers_of_wellFormed h
  refine ⟨GoMap.ofList xs, ?_, ?_⟩
  · show (decodeMembers any ms).map GoMap.ofList = _
    rw [hxs]
    rfl
  · rw [Json.normalize, ← hmap]
    exact congrArg Json.obj (GoMap.insertAll_map any.encode xs []).symm

end Codec
