import TokyoTester.Library.Sorting

set_option autoImplicit false

/-! # Merging keyed lists

Values are put into a map that keeps the order of insertion (`Map.set`): a new key goes to the end,
and the value of a key that is there is replaced where it stands. `merge` puts in the values of
several lists and sorts what the map then has. When the sort key depends on the map's key only,
merging in parts gives the list that merging at once gives. -/

namespace Merging

open Sorting

variable {α κ ρ : Type} [DecidableEq κ] (key : α → κ)

/-- `Map.set` on the entries of a map. -/
def put (x : α) : List α → List α
  | [] => [x]
  | r :: rest => if key r = key x then x :: rest else r :: put x rest

/-- The entries after setting all the values in turn. -/
def putAll (xs m : List α) : List α := xs.foldl (fun m x => put key x m) m

/-- The entries of a new map. -/
def latest (xs : List α) : List α := putAll key xs []

/-- The values of a map of the sources, sorted. -/
def merge [LinearOrder ρ] (rank : α → ρ) (sources : List (List α)) : List α :=
  stableSort rank (latest key sources.flatten)

variable {key} {x y : α} {xs ys m : List α}

/-! ## One value -/

theorem map_key_put : (put key x m).map key =
    if key x ∈ m.map key then m.map key else m.map key ++ [key x] := by
  induction m with
  | nil => simp [put]
  | cons r rest ih =>
      unfold put
      by_cases h : key r = key x
      · simp [h]
      · have h' : ¬key x = key r := fun heq => h heq.symm
        simp only [h, if_false, List.map_cons, ih, List.mem_cons, h', false_or]
        split_ifs <;> rfl

theorem nodup_put (h : (m.map key).Nodup) : ((put key x m).map key).Nodup := by
  rw [map_key_put]
  split_ifs with hmem
  · exact h
  · exact List.nodup_append.2 ⟨h, by simp, by simpa using fun a ha heq => hmem (by simpa using ⟨a, ha, heq⟩)⟩

theorem mem_map_key_put : key x ∈ (put key x m).map key := by
  rw [map_key_put]
  split_ifs with hmem
  · exact hmem
  · simp

theorem mem_map_key_put_of_mem {k : κ} (h : k ∈ m.map key) : k ∈ (put key x m).map key := by
  rw [map_key_put]
  split_ifs
  · exact h
  · exact List.mem_append_left _ h

/-- The value of a key. -/
theorem find_put (k : κ) : (put key x m).find? (fun r => key r = k) =
    if key x = k then some x else m.find? fun r => key r = k := by
  induction m with
  | nil => by_cases hk : key x = k <;> simp [put, hk]
  | cons r rest ih =>
      unfold put
      by_cases hr : key r = key x
      · by_cases hk : key x = k <;> simp [hr, hk]
      · rw [if_neg hr]
        by_cases hrk : key r = k
        · have hk : ¬key x = k := fun heq => hr (hrk.trans heq.symm)
          simp [hrk, hk]
        · simp [hrk, ih]

/-- A later value of a key takes the place of an earlier one. -/
theorem put_put (h : key x = key y) : put key y (put key x m) = put key y m := by
  induction m with
  | nil => simp [put, h]
  | cons r rest ih =>
      by_cases hr : key r = key x
      · simp [put, hr, h]
      · have hy : ¬key r = key y := fun heq => hr (heq.trans h.symm)
        simp only [put, hr, hy, if_false, ih]

/-- Values of two keys may be put in either order when one of the keys is there. -/
theorem put_comm (hne : key x ≠ key y) (hx : key x ∈ m.map key) :
    put key x (put key y m) = put key y (put key x m) := by
  induction m with
  | nil => simp at hx
  | cons r rest ih =>
      by_cases hr : key r = key x
      · have hy : ¬key r = key y := fun heq => hne (hr.symm.trans heq)
        simp [put, hr, hne]
      · have hrest : key x ∈ rest.map key := by
          rcases List.mem_cons.1 hx with h | h
          · exact absurd h.symm hr
          · exact h
        by_cases hy : key r = key y
        · have hyx : ¬key y = key x := fun heq => hne heq.symm
          simp [put, hy, hyx]
        · simp only [put, hr, hy, if_false, ih hrest]

/-- A condition on the key decides about a value and what it replaces alike. -/
theorem filter_put {p : α → Bool} (hp : ∀ a b, key a = key b → p a = p b) :
    (put key x m).filter p = if p x then put key x (m.filter p) else m.filter p := by
  induction m with
  | nil => by_cases hx : p x <;> simp [put, hx]
  | cons r rest ih =>
      by_cases hr : key r = key x
      · have hpr : p r = p x := hp r x hr
        by_cases hx : p x <;> simp [put, hr, hpr, hx]
      · by_cases hpr : p r
        · by_cases hx : p x <;> simp [put, hr, hpr, hx, ih]
        · by_cases hx : p x <;> simp [put, hr, hpr, hx, ih]

/-! ## Many values -/

theorem putAll_append : putAll key (xs ++ ys) m = putAll key ys (putAll key xs m) :=
  List.foldl_append ..

theorem nodup_latest (xs : List α) : ((latest key xs).map key).Nodup := by
  induction xs using List.reverseRecOn with
  | nil => simp [latest, putAll]
  | append_singleton xs x ih =>
      rw [latest, putAll_append]
      exact nodup_put ih

/-- **A key has the value it was given last.** -/
theorem find_latest (k : κ) (xs : List α) :
    (latest key xs).find? (fun r => key r = k) = xs.reverse.find? fun r => key r = k := by
  induction xs using List.reverseRecOn with
  | nil => rfl
  | append_singleton xs x ih =>
      rw [latest, putAll_append, ← latest]
      show (put key x (latest key xs)).find? _ = _
      rw [find_put, ih, List.reverse_append]
      by_cases hk : key x = k <;> simp [hk]

theorem filter_putAll {p : α → Bool} (hp : ∀ a b, key a = key b → p a = p b) :
    (putAll key xs m).filter p = putAll key (xs.filter p) (m.filter p) := by
  induction xs generalizing m with
  | nil => rfl
  | cons x xs ih =>
      show (putAll key xs (put key x m)).filter p = _
      rw [ih, filter_put hp]
      by_cases hx : p x
      · simp only [hx, if_true, List.filter_cons_of_pos]
        rfl
      · simp [hx]

/-- A value whose key is there may be put in before values of other keys. -/
theorem put_putAll (hne : ∀ y ∈ ys, key y ≠ key x) (hx : key x ∈ m.map key) :
    put key x (putAll key ys m) = putAll key ys (put key x m) := by
  induction ys generalizing m with
  | nil => rfl
  | cons y ys ih =>
      show put key x (putAll key ys (put key y m)) = putAll key ys (put key y (put key x m))
      rw [ih (fun z hz => hne z (List.mem_cons_of_mem _ hz)) (mem_map_key_put_of_mem hx),
        put_comm (hne y List.mem_cons_self).symm hx]

theorem putAll_put (hys : (ys.map key).Nodup) :
    putAll key (put key x ys) m = put key x (putAll key ys m) := by
  induction ys generalizing m with
  | nil => rfl
  | cons y ys ih =>
      obtain ⟨hy, hys⟩ := List.nodup_cons.1 hys
      by_cases h : key y = key x
      · have hne : ∀ z ∈ ys, key z ≠ key x := fun z hz heq =>
          hy (List.mem_map.2 ⟨z, hz, heq.trans h.symm⟩)
        have hput : put key x (y :: ys) = x :: ys := by simp [put, h]
        rw [hput]
        show putAll key ys (put key x m) = put key x (putAll key ys (put key y m))
        rw [put_putAll hne (h ▸ mem_map_key_put), put_put h]
      · have hput : put key x (y :: ys) = y :: put key x ys := by simp [put, h]
        rw [hput]
        exact ih hys

/-- **A map that is put into another one** leaves what its values would have left. -/
theorem putAll_latest : putAll key (latest key ys) m = putAll key ys m := by
  induction ys using List.reverseRecOn with
  | nil => rfl
  | append_singleton ys y ih =>
      have hlast : latest key (ys ++ [y]) = put key y (latest key ys) := putAll_append
      rw [hlast, putAll_put (nodup_latest ys), ih, putAll_append]
      rfl

theorem latest_latest (before middle after : List α) :
    latest key (before ++ latest key middle ++ after) = latest key (before ++ middle ++ after) := by
  unfold latest
  rw [putAll_append, putAll_append, putAll_append, putAll_append]
  exact congrArg _ putAll_latest

/-! ## Merging -/

section Merge

variable [LinearOrder ρ] {rank : α → ρ} (hrank : ∀ a b, key a = key b → rank a = rank b)

theorem map_key_merge (sources : List (List α)) :
    ((merge key rank sources).map key).Perm ((latest key sources.flatten).map key) :=
  (inOrder_stableSort rank _).perm.map key

theorem nodup_merge (sources : List (List α)) : ((merge key rank sources).map key).Nodup :=
  (map_key_merge sources).nodup_iff.2 (nodup_latest _)

theorem map_key_latest (xs : List α) {k : κ} : k ∈ (latest key xs).map key ↔ k ∈ xs.map key := by
  have hiff (ys : List α) : k ∈ ys.map key ↔ (ys.find? fun r => key r = k).isSome := by
    simp [List.find?_isSome]
  rw [hiff, find_latest, ← hiff, List.map_reverse, List.mem_reverse]

theorem mem_map_key_merge {sources : List (List α)} {k : κ} :
    k ∈ (merge key rank sources).map key ↔ k ∈ sources.flatten.map key := by
  rw [(map_key_merge sources).mem_iff, map_key_latest]

/-- Every key with the last value that was given for it. -/
theorem mem_merge {sources : List (List α)} {a : α} :
    a ∈ merge key rank sources ↔
      sources.flatten.reverse.find? (fun r => key r = key a) = some a := by
  rw [merge, (inOrder_stableSort rank _).perm.mem_iff, ← find_latest]
  constructor
  · intro ha
    cases hfind : (latest key sources.flatten).find? fun r => key r = key a with
    | none => exact absurd (List.find?_eq_none.1 hfind a ha) (by simp)
    | some b =>
        have hkey : key b = key a := by simpa using List.find?_some hfind
        have hmem := List.mem_of_find?_eq_some hfind
        rw [List.inj_on_of_nodup_map (nodup_latest _) hmem ha hkey]
  · exact List.mem_of_find?_eq_some

theorem sorted_merge (sources : List (List α)) :
    (merge key rank sources).Pairwise fun a b => rank a ≤ rank b :=
  (inOrder_stableSort rank _).sorted

include hrank in
/-- The entries of one rank: the sources' values of this rank in a map of their own. -/
theorem filter_merge (r : ρ) (sources : List (List α)) :
    (merge key rank sources).filter (fun a => rank a = r) =
      latest key (sources.flatten.filter fun a => rank a = r) := by
  rw [merge, filter_stableSort, latest, filter_putAll fun a b h => by rw [hrank a b h]]
  rfl

include hrank in
/-- **Merging in parts.** -/
theorem merge_merge (before middle after : List (List α)) :
    merge key rank (before ++ [merge key rank middle] ++ after) =
      merge key rank (before ++ middle ++ after) := by
  refine eq_of_filter (sorted_merge _) (sorted_merge _) fun r => ?_
  rw [filter_merge hrank, filter_merge hrank]
  simp only [List.flatten_append, List.flatten_cons, List.flatten_nil, List.append_nil,
    List.filter_append, filter_merge hrank]
  exact latest_latest _ _ _

end Merge

end Merging
