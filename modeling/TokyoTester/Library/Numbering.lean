import Mathlib.Tactic

set_option autoImplicit false

/-! # Numbered rows

The rows of a group are numbered when they carry `1, 2, …` in the order in which they stand. A row
that is appended keeps this exactly when it carries the next number. -/

namespace Numbering

variable {ρ γ : Type} [DecidableEq γ] {group : ρ → γ} {number : ρ → Int} {rows : List ρ} {r : ρ}
  {g : γ}

/-- The numbers of a group, in the order of its rows. -/
def numbers (group : ρ → γ) (number : ρ → Int) (g : γ) (rows : List ρ) : List Int :=
  (rows.filter fun r => decide (group r = g)).map number

/-- The rows of every group are numbered from one on. -/
def Numbered (group : ρ → γ) (number : ρ → Int) (rows : List ρ) : Prop :=
  ∀ g, numbers group number g rows
    = (List.range (numbers group number g rows).length).map fun k : Nat => (k : Int) + 1

/-- The number after the last one of a group. -/
def next (group : ρ → γ) (number : ρ → Int) (g : γ) (rows : List ρ) : Int :=
  (numbers group number g rows).length + 1

theorem numbers_append_self :
    numbers group number (group r) (rows ++ [r])
      = numbers group number (group r) rows ++ [number r] := by
  simp [numbers]

theorem numbers_append_of_ne (h : group r ≠ g) :
    numbers group number g (rows ++ [r]) = numbers group number g rows := by
  simp [numbers, h]

theorem numbered_nil : Numbered group number ([] : List ρ) := fun _ => rfl

/-- The next row of a group carries the next number. -/
theorem Numbered.append (h : Numbered group number rows)
    (hr : number r = next group number (group r) rows) : Numbered group number (rows ++ [r]) := by
  intro g
  by_cases hg : group r = g
  · subst hg
    rw [numbers_append_self, List.length_append, List.length_singleton, List.range_succ,
      List.map_append, ← h (group r), List.map_singleton, hr]
    rfl
  · rw [numbers_append_of_ne hg]
    exact h g

theorem Numbered.mem_iff (h : Numbered group number rows) {k : Int} :
    k ∈ numbers group number g rows ↔ 1 ≤ k ∧ k < next group number g rows := by
  rw [h g, List.mem_map]
  unfold next
  constructor
  · rintro ⟨i, hi, rfl⟩
    rw [List.mem_range] at hi
    omega
  · rintro ⟨hk, hlt⟩
    exact ⟨(k - 1).toNat, List.mem_range.2 (by omega), by omega⟩

/-- The numbers increase. -/
theorem Numbered.pairwise (h : Numbered group number rows) :
    (numbers group number g rows).Pairwise (· < ·) := by
  rw [h g, List.pairwise_map]
  exact List.pairwise_lt_range.imp fun hlt => by omega

theorem Numbered.nodup (h : Numbered group number rows) : (numbers group number g rows).Nodup :=
  h.pairwise.imp fun hlt => Int.ne_of_lt hlt

/-- A number that is not beyond the next one, and not taken, is the next one. -/
theorem Numbered.eq_next (h : Numbered group number rows) {k : Int} (hpos : 1 ≤ k)
    (hle : k ≤ next group number g rows) (hnot : k ∉ numbers group number g rows) :
    k = next group number g rows := by
  rw [h.mem_iff] at hnot
  omega

theorem foldl_max_range (n : Nat) :
    ((List.range n).map fun k : Nat => (k : Int) + 1).foldl max 0 = n := by
  induction n with
  | zero => rfl
  | succ n ih =>
      rw [List.range_succ, List.map_append, List.foldl_append, ih]
      simp

/-- The greatest number, or zero, and one is the next number. -/
theorem Numbered.foldl_max (h : Numbered group number rows) :
    (numbers group number g rows).foldl max 0 + 1 = next group number g rows := by
  rw [h g, foldl_max_range]
  rfl

/-- Rows that are added keep the next number or raise it. -/
theorem next_mono {rows' : List ρ} (h : rows <+: rows') :
    next group number g rows ≤ next group number g rows' := by
  obtain ⟨more, rfl⟩ := h
  simp [next, numbers]

end Numbering
