import TokyoTester.Library.Parsed

set_option autoImplicit false

/-! # Equality and inclusion of JSON values

Two values in memory are equal when they have the same structure and their numbers are read as the
same ones. A value includes another one when it has all of its members, recursively. Inclusion is
weaker than equality exactly on values with an object in them: enlarging each object by a member
gives a value that still includes it. -/

namespace Json

section Comparison

variable {ν : Type} [DecidableEq ν] (number : String → ν)

mutual

/-- Equality of two values in memory: the members of objects are in the order of their names. -/
def equal : Json → Json → Bool
  | null, null => true
  | bool a, bool b => a = b
  | num l, num l' => number l = number l'
  | str s, str t => s = t
  | arr xs, arr ys => equalItems xs ys
  | obj ms, obj ns => equalMembers ms ns
  | _, _ => false

def equalItems : List Json → List Json → Bool
  | [], [] => true
  | x :: xs, y :: ys => equal x y && equalItems xs ys
  | _, _ => false

def equalMembers : List (String × Json) → List (String × Json) → Bool
  | [], [] => true
  | (k, v) :: ms, (k', v') :: ns => k = k' && equal v v' && equalMembers ms ns
  | _, _ => false

end

/-- The value of a member. -/
def value? (ms : List (String × Json)) (k : String) : Option Json :=
  (ms.find? fun m => m.1 = k).map (·.2)

mutual

/-- A value includes another one: objects have its members, lists are as long. -/
def includes : Json → Json → Bool
  | obj ms, obj ns => includesMembers ms ns
  | arr xs, arr ys => includesItems xs ys
  | null, null => true
  | bool a, bool b => a = b
  | num l, num l' => number l = number l'
  | str s, str t => s = t
  | _, _ => false

def includesItems : List Json → List Json → Bool
  | [], [] => true
  | x :: xs, y :: ys => includes x y && includesItems xs ys
  | _, _ => false

def includesMembers (ms : List (String × Json)) : List (String × Json) → Bool
  | [] => true
  | (k, v) :: rest =>
    (match value? ms k with
    | some a => includes a v
    | none => false) && includesMembers ms rest

end

end Comparison

mutual

/-- There is no object in the value. -/
def flat : Json → Bool
  | obj _ => false
  | arr items => flatItems items
  | null => true
  | bool _ => true
  | num _ => true
  | str _ => true

def flatItems : List Json → Bool
  | [] => true
  | x :: xs => flat x && flatItems xs

end

/-- A name that no member has: it is longer than all of them together. -/
def freshName (ms : List (String × Json)) : String :=
  String.ofList ('x' :: ms.flatMap fun m => m.1.toList)

/-- The members and one more. -/
def addMember (ms : List (String × Json)) : List (String × Json) :=
  GoMap.insertEntry (freshName ms) null ms

mutual

/-- The value with one more member in each of its objects. -/
def enlarge : Json → Json
  | obj ms => obj (addMember (enlargeMembers ms))
  | arr items => arr (enlargeItems items)
  | null => null
  | bool b => bool b
  | num literal => num literal
  | str s => str s

def enlargeItems : List Json → List Json
  | [] => []
  | x :: xs => enlarge x :: enlargeItems xs

def enlargeMembers : List (String × Json) → List (String × Json)
  | [] => []
  | (k, v) :: rest => (k, enlarge v) :: enlargeMembers rest

end

section Enlarging

variable {ν : Type} [DecidableEq ν] {number : String → ν}

/-! ## Members -/

theorem value?_cons (m : String × Json) (ms : List (String × Json)) (k : String) :
    value? (m :: ms) k = if m.1 = k then some m.2 else value? ms k := by
  unfold value?
  rw [List.find?_cons]
  by_cases hk : m.1 = k
  · simp [hk]
  · simp [hk]

theorem value?_insertEntry (name k : String) (v : Json) (ms : List (String × Json)) :
    value? (GoMap.insertEntry k v ms) name = if k = name then some v else value? ms name := by
  unfold value?
  rw [GoMap.find?_insertEntry]
  split_ifs
  · rfl
  · rfl

theorem freshName_notMem (ms : List (String × Json)) : freshName ms ∉ ms.map (·.1) := by
  intro hmem
  obtain ⟨m, hm, hname⟩ := List.mem_map.1 hmem
  -- the name is longer than the one that it would be
  have hle : m.1.toList.length ≤ (ms.flatMap fun m => m.1.toList).length := by
    rw [List.length_flatMap]
    exact List.le_sum_of_mem (List.mem_map.2 ⟨m, hm, rfl⟩)
  have hlength := congrArg (fun s => s.toList.length) hname
  simp only [freshName, String.toList_ofList, List.length_cons] at hlength
  omega

/-- The members that there were are found as before. -/
theorem value?_addMember {ms : List (String × Json)} {k : String} {v : Json}
    (h : value? ms k = some v) : value? (addMember ms) k = some v := by
  have hne : freshName ms ≠ k := by
    rintro rfl
    obtain ⟨m, hfind, -⟩ := Option.map_eq_some_iff.1 h
    have hname : m.1 = freshName ms := by simpa using List.find?_some hfind
    exact freshName_notMem ms (hname ▸ List.mem_map_of_mem (List.mem_of_find?_eq_some hfind))
  unfold addMember
  rw [value?_insertEntry, if_neg hne, h]

theorem length_insertEntry {k : String} {v : Json} {ms : List (String × Json)}
    (h : k ∉ ms.map (·.1)) : (GoMap.insertEntry k v ms).length = ms.length + 1 := by
  induction ms with
  | nil => rfl
  | cons m ms ih =>
      rw [List.map_cons, List.mem_cons, not_or] at h
      unfold GoMap.insertEntry
      split_ifs with hlt heq
      · rfl
      · exact absurd heq h.1
      · rw [List.length_cons, List.length_cons, ih h.2]

theorem length_addMember (ms : List (String × Json)) : (addMember ms).length = ms.length + 1 :=
  length_insertEntry (freshName_notMem ms)

theorem canonical_addMember {ms : List (String × Json)} (h : (obj ms).canonical = true) :
    (obj (addMember ms)).canonical = true := by
  rw [canonical, Bool.and_eq_true, decide_eq_true_eq, canonicalMembers_iff] at h ⊢
  refine ⟨GoMap.sorted_insertEntry h.1, fun m hm => ?_⟩
  rcases GoMap.mem_insertEntry hm with rfl | hm
  · rw [canonical]
  · exact h.2 m hm

theorem keys_enlargeMembers (ms : List (String × Json)) :
    (enlargeMembers ms).map (·.1) = ms.map (·.1) := by
  induction ms with
  | nil => rw [enlargeMembers]
  | cons m ms ih =>
      obtain ⟨k, v⟩ := m
      rw [enlargeMembers, List.map_cons, List.map_cons, ih]

theorem value?_enlargeMembers (ms : List (String × Json)) (k : String) :
    value? (enlargeMembers ms) k = (value? ms k).map enlarge := by
  induction ms with
  | nil =>
      rw [enlargeMembers]
      rfl
  | cons m ms ih =>
      obtain ⟨name, v⟩ := m
      rw [enlargeMembers, value?_cons, value?_cons, ih]
      split_ifs
      · rfl
      · rfl

/-- The member of an object whose names differ. -/
theorem value?_of_mem {ms : List (String × Json)} {m : String × Json}
    (hsorted : ms.Pairwise fun x y => x.1 < y.1) (hm : m ∈ ms) : value? ms m.1 = some m.2 := by
  induction ms with
  | nil => cases hm
  | cons n ms ih =>
      rw [List.pairwise_cons] at hsorted
      rw [value?_cons]
      rcases List.mem_cons.1 hm with rfl | hm
      · rw [if_pos rfl]
      · rw [if_neg (ne_of_lt (hsorted.1 m hm))]
        exact ih hsorted.2 hm

theorem value?_enlarged {ms : List (String × Json)} {m : String × Json}
    (hsorted : ms.Pairwise fun x y => x.1 < y.1) (hm : m ∈ ms) :
    value? (addMember (enlargeMembers ms)) m.1 = some (enlarge m.2) := by
  refine value?_addMember ?_
  rw [value?_enlargeMembers, value?_of_mem hsorted hm]
  rfl

theorem includesMembers_iff {ms ns : List (String × Json)} :
    includesMembers number ms ns = true ↔
      ∀ n ∈ ns, ∃ a, value? ms n.1 = some a ∧ includes number a n.2 = true := by
  induction ns with
  | nil => simp [includesMembers]
  | cons n ns ih =>
      obtain ⟨k, v⟩ := n
      rw [includesMembers, Bool.and_eq_true, ih, List.forall_mem_cons]
      refine and_congr_left fun _ => ?_
      cases value? ms k with
      | none => simp
      | some a => simp

/-! ## Equality -/

mutual

theorem equal_refl : ∀ j : Json, equal number j j = true
  | null => by rw [equal]
  | bool b => by rw [equal, decide_eq_true_eq]
  | num l => by rw [equal, decide_eq_true_eq]
  | str s => by rw [equal, decide_eq_true_eq]
  | arr items => by rw [equal, equalItems_refl items]
  | obj members => by rw [equal, equalMembers_refl members]

theorem equalItems_refl : ∀ xs : List Json, equalItems number xs xs = true
  | [] => by rw [equalItems]
  | x :: xs => by rw [equalItems, equal_refl x, equalItems_refl xs, Bool.and_self]

theorem equalMembers_refl : ∀ ms : List (String × Json), equalMembers number ms ms = true
  | [] => by rw [equalMembers]
  | (k, v) :: ms => by
      rw [equalMembers, equal_refl v, equalMembers_refl ms, decide_eq_true rfl]
      rfl

end

theorem length_of_equalMembers {ms ns : List (String × Json)}
    (h : equalMembers number ms ns = true) : ms.length = ns.length := by
  induction ms generalizing ns with
  | nil =>
      cases ns with
      | nil => rfl
      | cons n ns => simp [equalMembers] at h
  | cons m ms ih =>
      cases ns with
      | nil => simp [equalMembers] at h
      | cons n ns =>
          rw [equalMembers, Bool.and_eq_true] at h
          rw [List.length_cons, List.length_cons, ih h.2]

/-- The members and one more are others. -/
theorem equal_addMember (ms : List (String × Json)) :
    equal number (obj (addMember ms)) (obj ms) = false := by
  rw [equal, Bool.eq_false_iff]
  intro h
  have hlength := length_of_equalMembers h
  rw [length_addMember] at hlength
  omega

mutual

/-- **An enlarged value is equal to the value** only if there is no object in it. -/
theorem equal_enlarge : ∀ j : Json, equal number (enlarge j) j = flat j
  | null => by rw [enlarge, equal, flat]
  | bool b => by rw [enlarge, equal_refl, flat]
  | num l => by rw [enlarge, equal_refl, flat]
  | str s => by rw [enlarge, equal_refl, flat]
  | arr items => by rw [enlarge, equal, flat, equalItems_enlarge items]
  | obj members => by
      rw [enlarge, equal, flat, Bool.eq_false_iff]
      intro h
      have hlength := length_of_equalMembers h
      rw [length_addMember] at hlength
      have hkeys := congrArg List.length (keys_enlargeMembers members)
      rw [List.length_map, List.length_map] at hkeys
      omega

theorem equalItems_enlarge : ∀ xs : List Json, equalItems number (enlargeItems xs) xs = flatItems xs
  | [] => by rw [enlargeItems, equalItems, flatItems]
  | x :: xs => by rw [enlargeItems, equalItems, flatItems, equal_enlarge x, equalItems_enlarge xs]

end

/-! ## Inclusion -/

mutual

/-- **An enlarged value includes the value.** -/
theorem includes_enlarge : ∀ j : Json, j.canonical = true → includes number (enlarge j) j = true
  | null, _ => by rw [enlarge, includes]
  | bool b, _ => by rw [enlarge, includes, decide_eq_true_eq]
  | num l, _ => by rw [enlarge, includes, decide_eq_true_eq]
  | str s, _ => by rw [enlarge, includes, decide_eq_true_eq]
  | arr items, h => by
      rw [canonical] at h
      rw [enlarge, includes, includesItems_enlarge items h]
  | obj members, h => by
      rw [canonical, Bool.and_eq_true, decide_eq_true_eq] at h
      rw [enlarge, includes, includesMembers_iff]
      intro m hm
      refine ⟨enlarge m.2, ?_, includes_enlargeEach members h.2 m hm⟩
      exact value?_enlarged h.1 hm

theorem includesItems_enlarge : ∀ xs : List Json, canonicalItems xs = true →
    includesItems number (enlargeItems xs) xs = true
  | [], _ => by rw [enlargeItems, includesItems]
  | x :: xs, h => by
      rw [canonicalItems, Bool.and_eq_true] at h
      rw [enlargeItems, includesItems, includes_enlarge x h.1, includesItems_enlarge xs h.2,
        Bool.and_self]

theorem includes_enlargeEach : ∀ ms : List (String × Json), canonicalMembers ms = true →
    ∀ m ∈ ms, includes number (enlarge m.2) m.2 = true
  | [], _, _, hm => absurd hm List.not_mem_nil
  | (k, v) :: ms, h, m, hm => by
      rw [canonicalMembers, Bool.and_eq_true] at h
      rcases List.mem_cons.1 hm with rfl | hm
      · exact includes_enlarge v h.1
      · exact includes_enlargeEach ms h.2 m hm

end

mutual

/-- **On a value without objects** inclusion is equality. -/
theorem includes_eq_equal : ∀ (j : Json) (a : Json), flat j = true →
    includes number a j = equal number a j
  | null, a, _ => by cases a <;> simp [includes, equal]
  | bool b, a, _ => by cases a <;> simp [includes, equal]
  | num l, a, _ => by cases a <;> simp [includes, equal]
  | str s, a, _ => by cases a <;> simp [includes, equal]
  | arr items, a, h => by
      rw [flat] at h
      cases a with
      | arr xs => rw [includes, equal, includesItems_eq_equalItems items xs h]
      | _ => simp [includes, equal]
  | obj members, _, h => by
      rw [flat] at h
      cases h

theorem includesItems_eq_equalItems : ∀ (ys xs : List Json), flatItems ys = true →
    includesItems number xs ys = equalItems number xs ys
  | [], xs, _ => by cases xs <;> simp [includesItems, equalItems]
  | y :: ys, xs, h => by
      rw [flatItems, Bool.and_eq_true] at h
      cases xs with
      | nil => simp [includesItems, equalItems]
      | cons x xs =>
          rw [includesItems, equalItems, includes_eq_equal y x h.1,
            includesItems_eq_equalItems ys xs h.2]

end

/-! ## Enlarged values in memory -/

mutual

theorem canonical_enlarge : ∀ j : Json, j.canonical = true → (enlarge j).canonical = true
  | null, _ => by rw [enlarge, canonical]
  | bool b, _ => by rw [enlarge, canonical]
  | num l, h => by rwa [enlarge]
  | str s, _ => by rw [enlarge, canonical]
  | arr items, h => by
      rw [canonical] at h
      rw [enlarge, canonical, canonicalItems_enlarge items h]
  | obj members, h => by
      rw [canonical, Bool.and_eq_true, decide_eq_true_eq] at h
      rw [enlarge]
      refine canonical_addMember ?_
      rw [canonical, Bool.and_eq_true, decide_eq_true_eq, canonicalMembers_enlarge members h.2]
      refine ⟨List.pairwise_map.1 ?_, rfl⟩
      rw [keys_enlargeMembers]
      exact List.pairwise_map.2 h.1

theorem canonicalItems_enlarge :
    ∀ xs : List Json, canonicalItems xs = true → canonicalItems (enlargeItems xs) = true
  | [], _ => by rw [enlargeItems, canonicalItems]
  | x :: xs, h => by
      rw [canonicalItems, Bool.and_eq_true] at h
      rw [enlargeItems, canonicalItems, canonical_enlarge x h.1, canonicalItems_enlarge xs h.2,
        Bool.and_self]

theorem canonicalMembers_enlarge : ∀ ms : List (String × Json), canonicalMembers ms = true →
    canonicalMembers (enlargeMembers ms) = true
  | [], _ => by rw [enlargeMembers, canonicalMembers]
  | (k, v) :: ms, h => by
      rw [canonicalMembers, Bool.and_eq_true] at h
      rw [enlargeMembers, canonicalMembers, canonical_enlarge v h.1,
        canonicalMembers_enlarge ms h.2, Bool.and_self]

end

end Enlarging

end Json
