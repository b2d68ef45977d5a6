import Mathlib.Tactic
import Mathlib.Data.List.Sort

set_option autoImplicit false

/-! # Sorting by a comparison

What an unstable sort promises of a comparison, and what it gives when that is a strict weak
ordering only sometimes; and the order that a stable sort by a key gives. An unstable sort is sure
to give that order exactly when the comparison agrees with the key and equal keys mean equal
elements. -/

namespace Sorting

variable {α κ : Type}

/-! ## What sorts promise -/

/-- `lt` is a strict weak ordering of the elements of a list. -/
structure StrictWeak (lt : α → α → Prop) (xs : List α) : Prop where
  irrefl : ∀ x ∈ xs, ¬lt x x
  asymm : ∀ x ∈ xs, ∀ y ∈ xs, lt x y → ¬lt y x
  trans : ∀ x ∈ xs, ∀ y ∈ xs, ∀ z ∈ xs, lt x y → lt y z → lt x z
  incomparable : ∀ x ∈ xs, ∀ y ∈ xs, ∀ z ∈ xs,
    ¬lt x y → ¬lt y x → ¬lt y z → ¬lt z y → ¬lt x z ∧ ¬lt z x

/-- What an unstable sort may make of a list: a permutation, and if the comparison is a strict weak
    ordering, a sorted one. -/
structure Sorts (lt : α → α → Prop) (xs ys : List α) : Prop where
  perm : ys.Perm xs
  sorted : StrictWeak lt xs → ys.Pairwise fun x y => ¬lt y x

section Stable

variable [LinearOrder κ] (key : α → κ)

/-- An element comes before another one: its key is smaller, or it is equal and the element has an
    earlier position. -/
def Precedes (p q : α × Nat) : Prop :=
  key p.1 < key q.1 ∨ key p.1 = key q.1 ∧ p.2 < q.2

/-- The keys never decrease, and elements with equal keys keep their positions. -/
def InOrder (xs ys : List α) : Prop :=
  ∃ zs : List (α × Nat), zs.Perm xs.zipIdx ∧ zs.map Prod.fst = ys ∧ zs.Pairwise (Precedes key)

/-- A stable sort by a key. -/
def stableSort (xs : List α) : List α := xs.mergeSort fun x y => key x ≤ key y

variable {key} {xs ys : List α}

theorem Precedes.asymm {p q : α × Nat} (h : Precedes key p q) : ¬Precedes key q p := by
  rintro (h' | ⟨h', hlt'⟩)
  · rcases h with h | ⟨h, -⟩
    · exact lt_asymm h h'
    · exact absurd h' (by simp [h])
  · rcases h with h | ⟨-, hlt⟩
    · exact absurd h (by simp [h'])
    · omega

theorem InOrder.perm (h : InOrder key xs ys) : ys.Perm xs := by
  obtain ⟨zs, hperm, rfl, -⟩ := h
  have hmap := hperm.map Prod.fst
  rwa [List.zipIdx_map_fst] at hmap

theorem InOrder.sorted (h : InOrder key xs ys) : ys.Pairwise fun x y => key x ≤ key y := by
  obtain ⟨zs, -, rfl, hsorted⟩ := h
  rw [List.pairwise_map]
  refine hsorted.imp fun {p q} hpq => ?_
  rcases hpq with h | ⟨h, -⟩
  · exact h.le
  · exact h.le

/-- **There is one such order.** -/
theorem InOrder.eq {ys' : List α} (h : InOrder key xs ys) (h' : InOrder key xs ys') : ys = ys' := by
  obtain ⟨zs, hperm, rfl, hsorted⟩ := h
  obtain ⟨zs', hperm', rfl, hsorted'⟩ := h'
  congr 1
  refine List.Perm.eq_of_pairwise (fun p q _ _ hpq hqp => ?_) hsorted hsorted'
    (hperm.trans hperm'.symm)
  exact absurd hqp hpq.asymm

variable (key) in
/-- **A stable sort gives it.** -/
theorem inOrder_stableSort (xs : List α) : InOrder key xs (stableSort key xs) := by
  refine ⟨xs.zipIdx.mergeSort (List.zipIdxLE fun x y => key x ≤ key y),
    List.mergeSort_perm _ _, List.mergeSort_zipIdx, ?_⟩
  have htrans : ∀ x y z : α, decide (key x ≤ key y) = true → decide (key y ≤ key z) = true →
      decide (key x ≤ key z) = true := by
    intro x y z hxy hyz
    simp only [decide_eq_true_eq] at hxy hyz ⊢
    exact hxy.trans hyz
  have htotal : ∀ x y : α, (decide (key x ≤ key y) || decide (key y ≤ key x)) = true := by
    intro x y
    simpa using le_total (key x) (key y)
  have hsorted := List.pairwise_mergeSort (List.zipIdxLE_trans htrans)
    (List.zipIdxLE_total htotal) xs.zipIdx
  have hnodup : (xs.zipIdx.mergeSort (List.zipIdxLE fun x y => key x ≤ key y)).Pairwise
      fun p q => p.2 ≠ q.2 := by
    have hpositions : (xs.zipIdx.map Prod.snd).Nodup := by
      rw [List.zipIdx_map_snd]
      exact List.nodup_range'
    exact List.pairwise_map.1 (((List.mergeSort_perm _ _).map Prod.snd).nodup_iff.2 hpositions)
  refine (hsorted.and hnodup).imp fun {p q} ⟨hle, hne⟩ => ?_
  unfold List.zipIdxLE at hle
  simp only [decide_eq_true_eq] at hle
  split_ifs at hle with hpq hqp
  · refine .inr ⟨le_antisymm hpq hqp, lt_of_le_of_ne ?_ hne⟩
    simpa using hle
  · exact .inl (lt_of_not_ge hqp)

/-- Elements of one key keep their order. -/
theorem filter_stableSort (k : κ) (xs : List α) :
    (stableSort key xs).filter (fun x => key x = k) = xs.filter fun x => key x = k := by
  have htrans : ∀ x y z : α, decide (key x ≤ key y) = true → decide (key y ≤ key z) = true →
      decide (key x ≤ key z) = true := by
    intro x y z hxy hyz
    simp only [decide_eq_true_eq] at hxy hyz ⊢
    exact hxy.trans hyz
  have htotal : ∀ x y : α, (decide (key x ≤ key y) || decide (key y ≤ key x)) = true := by
    intro x y
    simpa using le_total (key x) (key y)
  have hclass : (xs.filter fun x => key x = k).Pairwise fun x y => decide (key x ≤ key y) = true := by
    refine List.pairwise_of_forall_mem_list fun x hx y hy => ?_
    simp only [List.mem_filter, decide_eq_true_eq] at hx hy
    simp [hx.2, hy.2]
  have hsub : (xs.filter fun x => key x = k).Sublist (stableSort key xs) :=
    List.sublist_mergeSort htrans htotal hclass List.filter_sublist
  have hsub' := hsub.filter fun x => decide (key x = k)
  rw [List.filter_filter] at hsub'
  simp only [Bool.and_self] at hsub'
  refine (hsub'.eq_of_length ?_).symm
  exact ((inOrder_stableSort key xs).perm.filter _).length_eq.symm

/-- Sorted lists with the same elements of each key are the same. -/
theorem eq_of_filter {xs ys : List α} (hxs : xs.Pairwise fun x y => key x ≤ key y)
    (hys : ys.Pairwise fun x y => key x ≤ key y)
    (h : ∀ k, xs.filter (fun x => key x = k) = ys.filter fun x => key x = k) : xs = ys := by
  induction xs generalizing ys with
  | nil =>
      cases ys with
      | nil => rfl
      | cons y ys => exact absurd (h (key y)) (by simp)
  | cons x xs ih =>
      cases ys with
      | nil => exact absurd (h (key x)) (by simp)
      | cons y ys =>
          -- each list starts with its least key, and each has the other one's
          have hxy : key x ≤ key y := by
            have hy : y ∈ (x :: xs).filter fun z => key z = key y := by simp [h (key y)]
            rcases List.mem_cons.1 (List.mem_filter.1 hy).1 with heq | hmem
            · exact (congrArg key heq).ge
            · exact List.rel_of_pairwise_cons hxs hmem
          have hyx : key y ≤ key x := by
            have hx : x ∈ (y :: ys).filter fun z => key z = key x := by simp [← h (key x)]
            rcases List.mem_cons.1 (List.mem_filter.1 hx).1 with heq | hmem
            · exact (congrArg key heq).ge
            · exact List.rel_of_pairwise_cons hys hmem
          have hkey : key y = key x := le_antisymm hyx hxy
          have hhead := h (key x)
          simp only [decide_true, List.filter_cons_of_pos, hkey, List.cons.injEq] at hhead
          obtain ⟨rfl, -⟩ := hhead
          congr 1
          refine ih hxs.of_cons hys.of_cons fun k => ?_
          have hk := h k
          by_cases hxk : key x = k
          · simpa [hxk] using hk
          · simpa [hxk] using hk

/-- Two elements of a sorted list stand in one of the two orders. -/
theorem rel_or_rel {β : Type} {r : β → β → Prop} {l : List β} (h : l.Pairwise r) {a b : β}
    (ha : a ∈ l) (hb : b ∈ l) (hne : a ≠ b) : r a b ∨ r b a := by
  have hsymm : l.Pairwise fun x y => r x y ∨ r y x := h.imp fun hxy => .inl hxy
  have : Std.Symm fun x y => r x y ∨ r y x := ⟨fun _ _ hxy => hxy.symm⟩
  exact hsymm.forall ha hb hne

/-- **A stable sort by a coarser key** gives the order if and only if the coarser key tells apart
    every two elements that stand the wrong way round. -/
theorem inOrder_stableSort_iff {κ' : Type} [LinearOrder κ'] {key' : α → κ'}
    (hmono : ∀ x y, key x ≤ key y → key' x ≤ key' y) :
    InOrder key xs (stableSort key' xs) ↔
      xs.Pairwise fun x y => key y < key x → key' x ≠ key' y := by
  obtain ⟨zs, hperm, hzs, hsorted⟩ := inOrder_stableSort key' xs
  have hget : ∀ p ∈ zs, xs[p.2]? = some p.1 := fun p hp =>
    List.mem_zipIdx_iff_getElem?.1 (hperm.mem_iff.1 hp)
  constructor
  · intro h
    have hle := h.sorted
    rw [← hzs, List.pairwise_map] at hle
    rw [List.pairwise_iff_getElem]
    intro i j hi hj hij hlt heq
    have hp : (xs[i], i) ∈ zs :=
      hperm.mem_iff.2 (List.mem_zipIdx_iff_getElem?.2 (List.getElem?_eq_getElem hi))
    have hq : (xs[j], j) ∈ zs :=
      hperm.mem_iff.2 (List.mem_zipIdx_iff_getElem?.2 (List.getElem?_eq_getElem hj))
    have hne : (xs[i], i) ≠ (xs[j], j) := fun h => by
      have := congrArg Prod.snd h
      dsimp only at this
      omega
    -- two positions are compared by key first and by place in the list where the keys are the same
    rcases rel_or_rel (hsorted.and hle) hp hq hne with ⟨-, hle⟩ | ⟨hbefore, -⟩
    · exact absurd hlt (not_lt.2 hle)
    · rcases hbefore with hlt' | ⟨-, hji⟩
      · exact absurd hlt' (by simp [heq])
      · dsimp only at hji
        omega
  · intro h
    refine ⟨zs, hperm, hzs, hsorted.imp_of_mem fun {p q} hp hq hpq => ?_⟩
    rcases hpq with hlt | ⟨heq, hidx⟩
    · exact .inl (lt_of_not_ge fun hle => absurd hlt (not_lt.2 (hmono _ _ hle)))
    · obtain ⟨hi, hpi⟩ := List.getElem?_eq_some_iff.1 (hget p hp)
      obtain ⟨hj, hqj⟩ := List.getElem?_eq_some_iff.1 (hget q hq)
      have hnot := List.pairwise_iff_getElem.1 h p.2 q.2 hi hj hidx
      rw [hpi, hqj] at hnot
      rcases lt_or_eq_of_le (not_lt.1 fun hlt => hnot hlt heq) with h | h
      · exact .inl h
      · exact .inr ⟨h, hidx⟩

end Stable

/-! ## Unstable sorts -/

section Unstable

variable {lt : α → α → Prop} {xs ys : List α}

/-- Not being after is transitive. -/
theorem StrictWeak.not_trans (h : StrictWeak lt xs) {x y z : α} (hx : x ∈ xs) (hy : y ∈ xs)
    (hz : z ∈ xs) (hyx : ¬lt y x) (hzy : ¬lt z y) : ¬lt z x := by
  intro hzx
  by_cases hxy : lt x y
  · exact hzy (h.trans z hz x hx y hy hzx hxy)
  · by_cases hyz : lt y z
    · exact hyx (h.trans y hy z hz x hx hyz hzx)
    · exact (h.incomparable x hx y hy z hz hxy hyx hyz hzy).2 hzx

open Classical in
/-- Among what it is not comparable to, any element may come first. -/
theorem StrictWeak.exists_first (h : StrictWeak lt xs) (x : α) :
    ∃ ys : List α, ys.Perm xs ∧ (ys.Pairwise fun l r => ¬lt r l) ∧
      ys.Pairwise fun l r => r = x → l = x ∨ lt l x := by
  let le : {z // z ∈ xs} → {z // z ∈ xs} → Bool := fun p q =>
    decide (¬lt q.1 p.1 ∧ (lt p.1 q.1 ∨ p.1 = x ∨ q.1 ≠ x))
  have htotal : ∀ p q, (le p q || le q p) = true := by
    intro p q
    simp only [le, Bool.or_eq_true, decide_eq_true_eq]
    have hpq := h.asymm p.1 p.2 q.1 q.2
    have hqp := h.asymm q.1 q.2 p.1 p.2
    tauto
  have htrans : ∀ p q r, le p q = true → le q r = true → le p r = true := by
    intro p q r hpq hqr
    simp only [le, decide_eq_true_eq] at hpq hqr ⊢
    have hrp := h.not_trans p.2 q.2 r.2 hpq.1 hqr.1
    refine ⟨hrp, ?_⟩
    by_cases hp : p.1 = x
    · exact .inr (.inl hp)
    · by_cases hr : r.1 = x
      · refine .inl (by_contra fun hpr => ?_)
        -- `p` and `r` are not comparable, so `q` is not comparable to both or neither
        rcases hpq.2 with hlt | hx | hq
        · rcases hqr.2 with hlt' | hx | hr'
          · exact hpr (h.trans _ p.2 _ q.2 _ r.2 hlt hlt')
          · rw [hx, ← hr] at hlt
            exact hpr hlt
          · exact hr' hr
        · exact hp hx
        · have hqr' : lt q.1 r.1 := by
            rcases hqr.2 with hlt | hx | hr'
            · exact hlt
            · exact absurd hx hq
            · exact absurd hr hr'
          by_cases hlt : lt p.1 q.1
          · exact hpr (h.trans _ p.2 _ q.2 _ r.2 hlt hqr')
          · exact (h.incomparable _ q.2 _ p.2 _ r.2 hpq.1 hlt hpr hrp).1 hqr'
      · exact .inr (.inr hr)
  have hsorted := List.pairwise_mergeSort htrans htotal xs.attach
  refine ⟨(xs.attach.mergeSort le).map Subtype.val, ?_, ?_, ?_⟩
  · have hmap := (List.mergeSort_perm xs.attach le).map Subtype.val
    rwa [List.attach_map_subtype_val] at hmap
  · rw [List.pairwise_map]
    exact hsorted.imp fun hpq => (of_decide_eq_true hpq).1
  · rw [List.pairwise_map]
    refine hsorted.imp fun {p q} hpq hq => ?_
    rcases (of_decide_eq_true hpq).2 with hlt | hp | hne
    · rw [hq] at hlt
      exact .inr hlt
    · exact .inl hp
    · exact absurd hq hne

variable [LinearOrder κ] {key : α → κ}

open Classical in
/-- If every permutation is in order, all elements are equal. -/
theorem eq_of_perms_inOrder (h : ∀ ys, ys.Perm xs → InOrder key xs ys) {x y : α} (hx : x ∈ xs)
    (hy : y ∈ xs) : x = y := by
  have hfirst := h _ (List.perm_cons_erase hx).symm
  have hsecond := h _ (List.perm_cons_erase hy).symm
  exact (List.cons.inj (hfirst.eq hsecond)).1

/-- **An unstable sort** is sure to give the order by a key if and only if its comparison agrees
    with the key and equal keys mean equal elements. -/
theorem sorts_inOrder_iff (hties : ∀ x y, key x = key y → ¬lt x y) :
    (∀ ys, Sorts lt xs ys → InOrder key xs ys) ↔
      ∀ x ∈ xs, ∀ y ∈ xs, (lt x y ↔ key x < key y) ∧ (key x = key y → x = y) := by
  constructor
  · intro h
    have hweak : StrictWeak lt xs := by
      by_contra hnot
      have hequal : ∀ x ∈ xs, ∀ y ∈ xs, x = y := fun x hx y hy =>
        eq_of_perms_inOrder (fun ys hys => h ys ⟨hys, fun hw => absurd hw hnot⟩) hx hy
      have hno : ∀ x ∈ xs, ∀ y ∈ xs, ¬lt x y := fun x hx y hy =>
        hties x y (congrArg key (hequal x hx y hy))
      exact hnot ⟨fun x hx => hno x hx x hx, fun x hx y hy _ => hno y hy x hx,
        fun x hx y hy z hz hxy => absurd hxy (hno x hx y hy),
        fun x hx y hy z hz _ _ _ _ => ⟨hno x hx z hz, hno z hz x hx⟩⟩
    have hstable := inOrder_stableSort key xs
    have hmem : ∀ x ∈ xs, x ∈ stableSort key xs := fun x hx => hstable.perm.mem_iff.2 hx
    -- what is not after an element comes behind it
    have hfirst : ∀ x ∈ xs, ∀ y ∈ xs, x ≠ y → ¬lt y x →
        (stableSort key xs).Pairwise fun l r => ¬(l = y ∧ r = x) := by
      intro x hx y hy hne hyx
      obtain ⟨ys, hperm, hsorted, hys⟩ := hweak.exists_first x
      rw [hstable.eq (h ys ⟨hperm, fun _ => hsorted⟩)]
      refine hys.imp fun {l r} hlr hboth => ?_
      rcases hlr hboth.2 with hl | hl
      · exact hne (hl.symm.trans hboth.1)
      · exact hyx (hboth.1 ▸ hl)
    have hnever : ∀ x ∈ xs, ∀ y ∈ xs, x ≠ y →
        ((stableSort key xs).Pairwise fun l r => ¬(l = y ∧ r = x)) →
        ¬(stableSort key xs).Pairwise fun l r => ¬(l = x ∧ r = y) := by
      intro x hx y hy hne hyx hxy
      rcases rel_or_rel (hyx.and hxy) (hmem x hx) (hmem y hy) hne with ⟨-, h⟩ | ⟨h, -⟩
      · exact h ⟨rfl, rfl⟩
      · exact h ⟨rfl, rfl⟩
    have hcompare : ∀ x ∈ xs, ∀ y ∈ xs, x ≠ y → lt x y ∨ lt y x := by
      intro x hx y hy hne
      by_contra hboth
      rw [not_or] at hboth
      exact hnever x hx y hy hne (hfirst x hx y hy hne hboth.2)
        (hfirst y hy x hx (Ne.symm hne) hboth.1)
    have hlt : ∀ x ∈ xs, ∀ y ∈ xs, key x < key y → lt x y := by
      intro x hx y hy hkey
      have hne : x ≠ y := fun heq => absurd hkey (by simp [heq])
      rcases hcompare x hx y hy hne with hxy | hyx
      · exact hxy
      · exfalso
        refine hnever x hx y hy hne ?_
          (hfirst y hy x hx (Ne.symm hne) (hweak.asymm y hy x hx hyx))
        refine hstable.sorted.imp fun {l r} hle hboth => ?_
        rw [hboth.1, hboth.2] at hle
        exact absurd hkey (not_lt.2 hle)
    intro x hx y hy
    refine ⟨⟨fun hxy => ?_, hlt x hx y hy⟩, fun heq => ?_⟩
    · rcases lt_trichotomy (key x) (key y) with hkey | hkey | hkey
      · exact hkey
      · exact absurd hxy (hties x y hkey)
      · exact absurd hxy (hweak.asymm y hy x hx (hlt y hy x hx hkey))
    · by_contra hne
      rcases hcompare x hx y hy hne with hxy | hyx
      · exact hties x y heq hxy
      · exact hties y x heq.symm hyx
  · intro h ys hys
    have hweak : StrictWeak lt xs := by
      constructor
      · intro x hx
        exact hties x x rfl
      · intro x hx y hy hxy hyx
        exact lt_asymm ((h x hx y hy).1.1 hxy) ((h y hy x hx).1.1 hyx)
      · intro x hx y hy z hz hxy hyz
        exact (h x hx z hz).1.2 (((h x hx y hy).1.1 hxy).trans ((h y hy z hz).1.1 hyz))
      · intro x hx y hy z hz hxy hyx hyz hzy
        rw [(h x hx y hy).1, not_lt] at hxy
        rw [(h y hy x hx).1, not_lt] at hyx
        rw [(h y hy z hz).1, not_lt] at hyz
        rw [(h z hz y hy).1, not_lt] at hzy
        rw [(h x hx z hz).1, (h z hz x hx).1, not_lt, not_lt]
        exact ⟨hyz.trans hxy, hyx.trans hzy⟩
    have hstable := inOrder_stableSort key xs
    have hsorted : ys.Pairwise fun x y => key x ≤ key y := by
      refine (hys.sorted hweak).imp_of_mem fun {x y} hx hy hyx => ?_
      rw [(h y (hys.perm.mem_iff.1 hy) x (hys.perm.mem_iff.1 hx)).1, not_lt] at hyx
      exact hyx
    have heq : ys = stableSort key xs := by
      refine List.Perm.eq_of_pairwise (fun x y hx hy hxy hyx => ?_) hsorted hstable.sorted
        (hys.perm.trans hstable.perm.symm)
      exact (h x (hys.perm.mem_iff.1 hx) y (hstable.perm.mem_iff.1 hy)).2 (le_antisymm hxy hyx)
    rw [heq]
    exact hstable

end Unstable

end Sorting
