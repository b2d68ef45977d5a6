import Mathlib.Data.List.Sort
import Mathlib.Tactic

set_option autoImplicit false

/-! # Ranks

The rank of an entry of a list is one more than the number of entries with smaller keys. Where the
keys are distinct, the ranks are the numbers from one to the length of the list. -/

namespace Ranks

variable {ρ κ : Type} [LinearOrder κ] (key : ρ → κ)

/-- The place of an entry in the order of the keys. -/
def rank (t : List ρ) (r : ρ) : Nat := (t.countP fun s => key s < key r) + 1

variable {key} {t : List ρ} {r : ρ}

theorem rank_eq_one_iff : rank key t r = 1 ↔ ∀ s ∈ t, key r ≤ key s := by
  simp [rank, List.countP_eq_zero]

theorem rank_congr {t' : List ρ} (h : t.Perm t') : rank key t = rank key t' := by
  funext r
  rw [rank, rank, h.countP_eq]

/-- The ranks of a list in ascending order. -/
theorem ranks_sorted (h : t.Pairwise fun r s => key r < key s) :
    t.map (rank key t) = List.range' 1 t.length := by
  induction t with
  | nil => rfl
  | cons r t ih =>
      obtain ⟨hr, ht⟩ := List.pairwise_cons.1 h
      have hfirst : rank key (r :: t) r = 1 := by
        rw [rank_eq_one_iff]
        intro s hs
        rcases List.mem_cons.1 hs with rfl | hs
        · exact le_refl _
        · exact (hr s hs).le
      have hrest : t.map (rank key (r :: t)) = (t.map (rank key t)).map (1 + ·) := by
        rw [List.map_map]
        refine List.map_congr_left fun s hs => ?_
        simp only [rank, List.countP_cons, Function.comp_apply, hr s hs, decide_true, if_pos]
        omega
      rw [List.map_cons, hfirst, hrest, ih ht, List.length_cons, List.range'_succ,
        List.map_add_range']

/-- **The ranks are the numbers up to the length.** -/
theorem ranks_perm (h : (t.map key).Nodup) :
    (t.map (rank key t)).Perm (List.range' 1 t.length) := by
  have htotal : Std.Total fun r s : ρ => key r ≤ key s := ⟨fun r s => le_total (key r) (key s)⟩
  have htrans : IsTrans ρ fun r s => key r ≤ key s := ⟨fun _ _ _ h h' => le_trans h h'⟩
  set sorted := t.insertionSort fun r s => key r ≤ key s with hsorted
  have hperm : sorted.Perm t := List.perm_insertionSort _ _
  have hascending : sorted.Pairwise fun r s => key r < key s := by
    have hle : sorted.Pairwise fun r s => key r ≤ key s := List.pairwise_insertionSort _ _
    have hne : sorted.Pairwise fun r s => key r ≠ key s :=
      List.pairwise_map.1 ((hperm.map key).nodup_iff.2 h)
    exact (hle.and hne).imp fun h => lt_of_le_of_ne h.1 h.2
  rw [← rank_congr hperm, ← hperm.length_eq, ← ranks_sorted hascending]
  exact (hperm.map _).symm

end Ranks
