import Mathlib.Order.Interval.Set.Defs
import Mathlib.Data.Set.Basic
import Mathlib.Tactic

set_option autoImplicit false

/-! # Consuming a log behind a cursor

The entries of a log have ids. A consumer that resumes after a position misses nothing if every
entry up to the position is settled: applied already, or still waiting to be (`Complete`). The rules
say what keeps that: an entry is added above the position, the next entry is received, and an entry
is applied when nothing below it waits. -/

namespace Replay

variable {ι : Type} [LinearOrder ι]

/-- Every stored entry up to `p` is settled. -/
def Complete (stored settled : Set ι) (p : ι) : Prop :=
  ∀ n ∈ stored, n ≤ p → n ∈ settled

variable {stored settled settled' applied waiting : Set ι} {p n : ι}

theorem Complete.mono (h : Complete stored settled p) (hsub : settled ⊆ settled') :
    Complete stored settled' p :=
  fun m hm hle => hsub (h m hm hle)

/-- An entry is added above the position. -/
theorem Complete.insert (h : Complete stored settled p) (hn : p < n) :
    Complete (insert n stored) settled p := by
  intro m hm hle
  rcases Set.mem_insert_iff.1 hm with rfl | hm
  · exact absurd hle (not_le.2 hn)
  · exact h m hm hle

/-- The next entry is received. -/
theorem Complete.next (h : Complete stored settled p) (hn : n ∈ settled)
    (hnext : ∀ m ∈ stored, p < m → n ≤ m) : Complete stored settled n := by
  intro m hm hle
  by_cases hmp : m ≤ p
  · exact h m hm hmp
  · have heq : m = n := le_antisymm hle (hnext m hm (not_le.1 hmp))
    exact heq ▸ hn

/-- **An entry is applied in order**: what waits below it was applied before. -/
theorem Complete.apply (h : Complete stored (applied ∪ waiting) n) (hn : n ∈ applied)
    (horder : ∀ m ∈ waiting, m < n → m ∈ applied) : Complete stored applied n := by
  intro m hm hle
  rcases h m hm hle with happlied | hwaiting
  · exact happlied
  · rcases lt_or_eq_of_le hle with hlt | rfl
    · exact horder m hwaiting hlt
    · exact hn

end Replay
