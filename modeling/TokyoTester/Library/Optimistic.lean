import TokyoTester.Library.Versioned
import Mathlib.Tactic

set_option autoImplicit false

/-! # Optimistic locking on rows by key

What the statements of `Versioned` do to a table with a unique key, said of the rows that the keys
have: an upsert writes one key, and an update or a deletion either finds the live row of its key at
the version it names and writes that key, or changes nothing. -/

namespace Versioned

open Table VersionedRow

variable {ρ : Type} [VersionedRow ρ]

/-- The row of every key, deleted or not. -/
abbrev Rows (ρ : Type) := String → Option ρ

def rowsOf (t : List ρ) : Rows ρ := fun k => find key k t

/-- The live row of a key. -/
def Rows.live (rows : Rows ρ) (k : String) : Option ρ := (rows k).filter fun r => !isDeleted r

variable {t : List ρ} {k : String} {base now : Int} {row r : ρ}

theorem live_eq_some {rows : Rows ρ} :
    rows.live k = some r ↔ rows k = some r ∧ isDeleted r = false := by
  rw [Rows.live, Option.filter_eq_some_iff]
  simp

/-- **A lookup finds the live row of its key.** -/
theorem live_rowsOf (hk : Keyed (key : ρ → String) t) (k : String) :
    (rowsOf t).live k = getLive k t := by
  cases hlive : getLive k t with
  | some r =>
      obtain ⟨hr, hkey, hdeleted⟩ := getLive_some hlive
      exact live_eq_some.2 ⟨hkey ▸ hk.find_mem hr, hdeleted⟩
  | none =>
      cases hrow : (rowsOf t).live k with
      | none => rfl
      | some r =>
          obtain ⟨hfind, hdeleted⟩ := live_eq_some.1 hrow
          obtain ⟨hr, hkey⟩ := find_some hfind
          exact absurd (getLive_none.1 hlive r hr hkey) (by simp [hdeleted])

theorem rowsOf_upsertRow (row : ρ) (t : List ρ) :
    rowsOf (upsertRow row t) = Function.update (rowsOf t) (key row)
      (some ((rowsOf t (key row)).elim row (assign row))) :=
  find_upsert_eq_update fun r => assign_key row r

theorem matches_iff_live (hk : Keyed (key : ρ → String) t) :
    (∃ r ∈ t, matchesVersion k base r = true) ↔
      ∃ r, (rowsOf t).live k = some r ∧ version r = base := by
  rw [live_rowsOf hk]
  constructor
  · rintro ⟨r, hr, hmatch⟩
    obtain ⟨hkey, hversion, hdeleted⟩ := matchesVersion_iff.1 hmatch
    refine ⟨r, ?_, hversion⟩
    rw [← live_rowsOf hk]
    exact live_eq_some.2 ⟨hkey ▸ hk.find_mem hr, hdeleted⟩
  · rintro ⟨r, hlive, hversion⟩
    obtain ⟨hr, hkey, hdeleted⟩ := getLive_some hlive
    exact ⟨r, hr, matchesVersion_iff.2 ⟨hkey, hversion, hdeleted⟩⟩

/-- What a statement on the live row of a key at a version does to the rows. -/
theorem rowsOf_updateWhere {f : ρ → ρ} (hf : ∀ r, key (f r) = key r)
    (hk : Keyed (key : ρ → String) t) (hlive : (rowsOf t).live k = some r)
    (hversion : version r = base) :
    rowsOf (updateWhere (matchesVersion k base) f t)
      = Function.update (rowsOf t) k (some (f r)) := by
  rw [live_rowsOf hk] at hlive
  obtain ⟨hr, hkey, hdeleted⟩ := getLive_some hlive
  funext i
  unfold rowsOf
  rw [find_updateWhere_matching hf hk hr (matchesVersion_iff.2 ⟨hkey, hversion, hdeleted⟩),
    Function.update_apply]

section Statements

variable [DecidableEq ρ]

/-- **An update** finds the live row of its key at its version, or nothing changes. -/
theorem updateIfVersion_rows (hk : Keyed (key : ρ → String) t) (hrow : version row = base + 1) :
    ((updateIfVersion row base t).1 = true ∧
      ∃ r, (rowsOf t).live (key row) = some r ∧ version r = base ∧
        rowsOf (updateIfVersion row base t).2
          = Function.update (rowsOf t) (key row) (some (assign row r))) ∨
    ((updateIfVersion row base t).1 = false ∧ (updateIfVersion row base t).2 = t ∧
      ∀ r, (rowsOf t).live (key row) = some r → version r ≠ base) := by
  by_cases hfound : ∃ r ∈ t, matchesVersion (key row) base r = true
  · obtain ⟨r, hlive, hversion⟩ := (matches_iff_live hk).1 hfound
    refine .inl ⟨(updateIfVersion_fst hk hrow).2 hfound, r, hlive, hversion, ?_⟩
    exact rowsOf_updateWhere (fun r => assign_key row r) hk hlive hversion
  · refine .inr ⟨?_, updateIfVersion_missed hfound, fun r hlive hversion => ?_⟩
    · exact Bool.eq_false_iff.2 fun htrue => hfound ((updateIfVersion_fst hk hrow).1 htrue)
    · exact hfound ((matches_iff_live hk).2 ⟨r, hlive, hversion⟩)

/-- **A deletion** likewise. -/
theorem deleteIfVersion_rows (now : Int) (hk : Keyed (key : ρ → String) t) :
    ((deleteIfVersion k base now t).1 = true ∧
      ∃ r, (rowsOf t).live k = some r ∧ version r = base ∧
        rowsOf (deleteIfVersion k base now t).2
          = Function.update (rowsOf t) k (some (markDeleted now r))) ∨
    ((deleteIfVersion k base now t).1 = false ∧ (deleteIfVersion k base now t).2 = t ∧
      ∀ r, (rowsOf t).live k = some r → version r ≠ base) := by
  by_cases hfound : ∃ r ∈ t, matchesVersion k base r = true
  · obtain ⟨r, hlive, hversion⟩ := (matches_iff_live hk).1 hfound
    refine .inl ⟨(deleteIfVersion_fst now hk).2 hfound, r, hlive, hversion, ?_⟩
    exact rowsOf_updateWhere (fun r => markDeleted_key now r) hk hlive hversion
  · refine .inr ⟨?_, ?_, fun r hlive hversion => ?_⟩
    · exact Bool.eq_false_iff.2 fun htrue => hfound ((deleteIfVersion_fst now hk).1 htrue)
    · by_contra hne
      exact hfound (exists_of_updateWhere_ne hne)
    · exact hfound ((matches_iff_live hk).2 ⟨r, hlive, hversion⟩)

end Statements

end Versioned
