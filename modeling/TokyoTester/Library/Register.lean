import Mathlib.Tactic

set_option autoImplicit false

/-! # Registers that keep the last of the greatest

A register holds one value. A write replaces what is held unless that has the greater key. What is
held after any writes has the greatest key of all; whether it is also greatest by another rank
depends on whether the keys are ordered like the ranks (`rank_le_iff`). -/

namespace Register

variable {α κ ρ : Type} [LinearOrder κ] [LinearOrder ρ] (key : α → κ)

/-- A write. -/
def write (held : Option α) (a : α) : Option α :=
  match held with
  | some b => if key a < key b then some b else some a
  | none => some a

/-- The writes one after the other. -/
def writes (held : Option α) (calls : List α) : Option α := calls.foldl (write key) held

theorem write_some (b a : α) :
    write key (some b) a = some b ∧ key a < key b ∨ write key (some b) a = some a ∧ key b ≤ key a := by
  unfold write
  by_cases h : key a < key b
  · exact .inl ⟨if_pos h, h⟩
  · exact .inr ⟨if_neg h, not_lt.1 h⟩

theorem writes_cons (held : Option α) (a : α) (calls : List α) :
    writes key held (a :: calls) = writes key (write key held a) calls := rfl

/-- What was held before is a write like the others. -/
theorem writes_held (held : Option α) (calls : List α) :
    writes key held calls = writes key none (held.toList ++ calls) := by
  cases held with
  | none => rfl
  | some b => rfl

/-- **What is held was written and has the greatest key.** -/
theorem writes_spec (b : α) (calls : List α) :
    ∃ c, writes key (some b) calls = some c ∧ c ∈ b :: calls ∧ ∀ a ∈ b :: calls, key a ≤ key c := by
  induction calls generalizing b with
  | nil => exact ⟨b, rfl, List.mem_cons_self, fun a ha => by rw [List.mem_singleton.1 ha]⟩
  | cons a calls ih =>
      rw [writes_cons]
      rcases write_some key b a with ⟨hwrite, hlt⟩ | ⟨hwrite, hle⟩
      · obtain ⟨c, hc, hmem, hmax⟩ := ih b
        refine ⟨c, by rw [hwrite, hc], ?_, ?_⟩
        · rcases List.mem_cons.1 hmem with rfl | hmem
          · exact List.mem_cons_self
          · exact List.mem_cons_of_mem _ (List.mem_cons_of_mem _ hmem)
        · intro x hx
          rcases List.mem_cons.1 hx with rfl | hx
          · exact hmax x List.mem_cons_self
          · rcases List.mem_cons.1 hx with rfl | hx
            · exact hlt.le.trans (hmax b List.mem_cons_self)
            · exact hmax x (List.mem_cons_of_mem _ hx)
      · obtain ⟨c, hc, hmem, hmax⟩ := ih a
        refine ⟨c, by rw [hwrite, hc], List.mem_cons_of_mem _ hmem, ?_⟩
        intro x hx
        rcases List.mem_cons.1 hx with rfl | hx
        · exact hle.trans (hmax a List.mem_cons_self)
        · exact hmax x hx

variable {key}

/-- After a write something is held. -/
theorem exists_writes {calls : List α} (h : calls ≠ []) : ∃ c, writes key none calls = some c := by
  cases calls with
  | nil => exact absurd rfl h
  | cons b calls =>
      obtain ⟨c, hc, -⟩ := writes_spec key b calls
      exact ⟨c, hc⟩

theorem writes_mem {calls : List α} {c : α} (h : writes key none calls = some c) : c ∈ calls := by
  cases calls with
  | nil => cases h
  | cons b calls =>
      obtain ⟨c', hc', hmem, -⟩ := writes_spec key b calls
      rwa [← Option.some.inj (hc'.symm.trans h)]

/-- **Over the values of a pool**, whatever is written in whatever order, what is held has the
    greatest rank exactly when keys are ordered like ranks. -/
theorem rank_le_iff {rank : α → ρ} {pool : Set α} :
    (∀ calls : List α, (∀ a ∈ calls, a ∈ pool) → ∀ c, writes key none calls = some c →
        ∀ a ∈ calls, rank a ≤ rank c) ↔
      ∀ a ∈ pool, ∀ b ∈ pool, key a ≤ key b → rank a ≤ rank b := by
  constructor
  · intro hall a ha b hb hkey
    have hheld : writes key none [a, b] = some b := by
      rw [writes_cons, writes_cons]
      show write key (some a) b = some b
      exact if_neg (not_lt.2 hkey)
    refine hall [a, b] ?_ b hheld a List.mem_cons_self
    intro x hx
    rcases List.mem_pair.1 hx with rfl | rfl
    · exact ha
    · exact hb
  · intro hordered calls hpool c hc a ha
    cases calls with
    | nil => cases ha
    | cons b calls =>
        obtain ⟨c', hc', hmem, hmax⟩ := writes_spec key b calls
        obtain rfl : c' = c := Option.some.inj (hc'.symm.trans hc)
        exact hordered a (hpool a ha) c' (hpool c' hmem) (hmax a ha)

end Register
