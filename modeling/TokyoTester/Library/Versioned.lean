import TokyoTester.Library.Table

set_option autoImplicit false

/-! # Optimistic locking on a table with soft deletion

A row carries a version and a deletion mark. A live row is found by its id; an update or a
deletion names the version it was based on and applies only to a live row that still has it; an
upsert writes a row whatever is there. The class lists the columns these statements touch, so
that each is written once for every table.

The rules of the module compare a table before and after: `Advances` says that every row that
changed got a greater version, and that rows are never lost. It is what an update and a deletion
guarantee, what an upsert of an absent id guarantees, and it composes. -/

namespace Versioned

open Table

/-- The columns that optimistic locking reads and writes. `assign new old` gives `old` every
    assigned column of `new`. -/
class VersionedRow (ρ : Type) where
  key : ρ → String
  version : ρ → Int
  isDeleted : ρ → Bool
  assign : ρ → ρ → ρ
  markDeleted : Int → ρ → ρ
  assign_key : ∀ new old, key (assign new old) = key old
  assign_version : ∀ new old, version (assign new old) = version new
  markDeleted_key : ∀ now r, key (markDeleted now r) = key r
  markDeleted_version : ∀ now r, version (markDeleted now r) = version r + 1

attribute [simp] VersionedRow.assign_key VersionedRow.assign_version VersionedRow.markDeleted_key
  VersionedRow.markDeleted_version

open VersionedRow

variable {ρ : Type} [VersionedRow ρ]

/-- `SELECT … WHERE id = ? AND is_deleted = 0`. -/
def getLive (k : String) (t : List ρ) : Option ρ :=
  t.find? fun r => decide (key r = k) && !isDeleted r

/-- `WHERE id = ? AND version = ? AND is_deleted = 0`. -/
def matchesVersion (k : String) (base : Int) (r : ρ) : Bool :=
  decide (key r = k) && decide (version r = base) && !isDeleted r

/-- `INSERT … ON DUPLICATE KEY UPDATE`. -/
def upsertRow (row : ρ) (t : List ρ) : List ρ := upsert key row (assign row) t

/-- `UPDATE … WHERE id = ? AND version = ? AND is_deleted = 0`: whether one row changed. -/
def updateIfVersion [DecidableEq ρ] (row : ρ) (base : Int) (t : List ρ) : Bool × List ρ :=
  (decide (rowsAffected (matchesVersion (key row) base) (assign row) t = 1),
    updateWhere (matchesVersion (key row) base) (assign row) t)

/-- `UPDATE … SET is_deleted = 1, version = version + 1 WHERE id = ? AND version = ? AND
    is_deleted = 0`: whether one row changed. -/
def deleteIfVersion [DecidableEq ρ] (k : String) (base : Int) (now : Int) (t : List ρ) :
    Bool × List ρ :=
  (decide (rowsAffected (matchesVersion k base) (markDeleted now) t = 1),
    updateWhere (matchesVersion k base) (markDeleted now) t)

/-! ## Lookups -/

variable {t t' t'' : List ρ} {k : String} {base : Int}

theorem getLive_some {r : ρ} (h : getLive k t = some r) :
    r ∈ t ∧ key r = k ∧ isDeleted r = false := by
  refine ⟨List.mem_of_find?_eq_some h, ?_⟩
  have := List.find?_some h
  simpa using this

theorem getLive_none : getLive k t = none ↔ ∀ r ∈ t, key r = k → isDeleted r = true := by
  simp [getLive, List.find?_eq_none]

theorem matchesVersion_iff {r : ρ} :
    matchesVersion k base r = true ↔ key r = k ∧ version r = base ∧ isDeleted r = false := by
  simp [matchesVersion, and_assoc]

/-! ## Whether one row changed -/

/-- An update that stores a new version reports whether it found its row. -/
theorem updateIfVersion_fst [DecidableEq ρ] {row : ρ} (hk : Keyed (key : ρ → String) t)
    (hrow : version row = base + 1) :
    (updateIfVersion row base t).1 = true ↔
      ∃ r ∈ t, matchesVersion (key row) base r = true := by
  unfold updateIfVersion
  rw [decide_eq_true_iff, hk.rowsAffected_eq_one_iff fun r hr => (matchesVersion_iff.1 hr).1]
  constructor
  · rintro ⟨r, hr, hsel, -⟩
    exact ⟨r, hr, hsel⟩
  · rintro ⟨r, hr, hsel⟩
    refine ⟨r, hr, hsel, fun hsame => ?_⟩
    have hver := congrArg version hsame
    rw [assign_version, hrow, (matchesVersion_iff.1 hsel).2.1] at hver
    omega

/-- A deletion reports whether it found its row. -/
theorem deleteIfVersion_fst [DecidableEq ρ] (now : Int) (hk : Keyed (key : ρ → String) t) :
    (deleteIfVersion k base now t).1 = true ↔ ∃ r ∈ t, matchesVersion k base r = true := by
  unfold deleteIfVersion
  rw [decide_eq_true_iff, hk.rowsAffected_eq_one_iff fun r hr => (matchesVersion_iff.1 hr).1]
  constructor
  · rintro ⟨r, hr, hsel, -⟩
    exact ⟨r, hr, hsel⟩
  · rintro ⟨r, hr, hsel⟩
    refine ⟨r, hr, hsel, fun hsame => ?_⟩
    have hver := congrArg version hsame
    rw [markDeleted_version] at hver
    omega

theorem updateIfVersion_missed [DecidableEq ρ] {row : ρ}
    (h : ¬ ∃ r ∈ t, matchesVersion (key row) base r = true) :
    (updateIfVersion row base t).2 = t := by
  by_contra hne
  exact h (exists_of_updateWhere_ne hne)

/-- Looking a key up after a statement changed one matching row. -/
theorem find_updateWhere_matching {f : ρ → ρ} (hf : ∀ r, key (f r) = key r)
    (hk : Keyed (key : ρ → String) t) {r : ρ} (hr : r ∈ t)
    (hsel : matchesVersion k base r = true) (i : String) :
    find key i (updateWhere (matchesVersion k base) f t)
      = if i = k then some (f r) else find key i t := by
  rw [find_updateWhere fun r _ _ => hf r]
  obtain ⟨hkey, -, -⟩ := matchesVersion_iff.1 hsel
  by_cases hi : i = k
  · rw [hi, ← hkey, hk.find_mem hr, hkey]
    simp [hsel]
  · rw [if_neg hi]
    cases hfind : find key i t with
    | none => rfl
    | some s =>
        have hs : matchesVersion k base s = false := by
          rw [← Bool.not_eq_true]
          intro hmatch
          exact hi ((find_some hfind).2.symm.trans (matchesVersion_iff.1 hmatch).1)
        simp [hs]

/-! ## Versions advance -/

/-- Every row of the old table is still there, as it was or with a greater version. -/
def Advances (t t' : List ρ) : Prop :=
  ∀ r ∈ t, ∃ r' ∈ t', key r' = key r ∧ (r' = r ∨ version r < version r')

theorem Advances.refl (t : List ρ) : Advances t t := fun r hr => ⟨r, hr, rfl, .inl rfl⟩

theorem Advances.trans (h₁ : Advances t t') (h₂ : Advances t' t'') : Advances t t'' := by
  intro r hr
  obtain ⟨r', hr', hid', hr'v⟩ := h₁ r hr
  obtain ⟨r'', hr'', hid'', hr''v⟩ := h₂ r' hr'
  refine ⟨r'', hr'', hid''.trans hid', ?_⟩
  rcases hr'v with rfl | hlt
  · exact hr''v
  · right
    rcases hr''v with rfl | hlt'
    · exact hlt
    · exact hlt.trans hlt'

/-- An update of selected rows advances when it keeps ids and raises versions. -/
theorem advances_updateWhere {p : ρ → Bool} {f : ρ → ρ} (hid : ∀ r, key (f r) = key r)
    (hver : ∀ r, p r = true → version r < version (f r)) : Advances t (updateWhere p f t) := by
  intro r hr
  refine ⟨_, mem_updateWhere.2 ⟨r, hr, rfl⟩, ?_⟩
  by_cases hp : p r = true
  · simp only [hp, if_true]
    exact ⟨hid r, .inr (hver r hp)⟩
  · simp only [hp]
    exact ⟨rfl, .inl rfl⟩

/-- An update that stores the version after its base advances. -/
theorem advances_updateIfVersion [DecidableEq ρ] {row : ρ} (hrow : version row = base + 1) :
    Advances t (updateIfVersion row base t).2 := by
  apply advances_updateWhere (fun r => assign_key row r)
  intro r hr
  have := (matchesVersion_iff.1 hr).2.1
  simp only [assign_version]
  omega

theorem advances_deleteIfVersion [DecidableEq ρ] {now : Int} :
    Advances t (deleteIfVersion k base now t).2 := by
  apply advances_updateWhere (fun r => markDeleted_key now r)
  intro r _
  simp

/-- An upsert of an id the table does not have only adds a row. -/
theorem advances_upsertRow {row : ρ} (h : ∀ r ∈ t, key r ≠ key row) :
    Advances t (upsertRow row t) := by
  have hnone : find key (key row) t = none := find_eq_none.2 h
  unfold upsertRow
  rw [upsert_of_none hnone]
  exact fun r hr => ⟨r, List.mem_append.2 (.inl hr), rfl, .inl rfl⟩

/-- With unique ids, a row whose version is what it was has not been changed. -/
theorem Advances.eq_of_version {r r' : ρ} (h : Advances t t') (hk : Keyed (key : ρ → String) t')
    (hr : r ∈ t) (hr' : r' ∈ t') (hid : key r' = key r) (hver : version r' = version r) :
    r' = r := by
  obtain ⟨s, hs, hsid, hsv⟩ := h r hr
  have hsr' : s = r' := hk.eq_of_key hs hr' (hsid.trans hid.symm)
  subst hsr'
  rcases hsv with heq | hlt
  · exact heq
  · omega

/-- A row whose version is unchanged at the end was there, unchanged, all the way. -/
theorem Advances.between {r r'' : ρ} (h₁ : Advances t t') (h₂ : Advances t' t'')
    (hk : Keyed (key : ρ → String) t'') (hr : r ∈ t) (hr'' : r'' ∈ t'') (hid : key r'' = key r)
    (hver : version r'' = version r) : r ∈ t' := by
  obtain ⟨m, hm, hmid, hmv⟩ := h₁ r hr
  rcases hmv with rfl | hlt
  · exact hm
  · obtain ⟨e, he, heid, hev⟩ := h₂ m hm
    have hee : e = r'' := hk.eq_of_key he hr'' ((heid.trans hmid).trans hid.symm)
    subst hee
    rcases hev with rfl | hlt'
    · omega
    · omega

/-! ## Ids stay unique -/

theorem keyed_upsertRow {row : ρ} (h : Keyed (key : ρ → String) t) :
    Keyed (key : ρ → String) (upsertRow row t) :=
  h.upsert fun r => assign_key row r

theorem keyed_updateIfVersion [DecidableEq ρ] {row : ρ} (h : Keyed (key : ρ → String) t) :
    Keyed (key : ρ → String) (updateIfVersion row base t).2 :=
  h.updateWhere fun r _ _ => assign_key row r

theorem keyed_deleteIfVersion [DecidableEq ρ] {now : Int} (h : Keyed (key : ρ → String) t) :
    Keyed (key : ρ → String) (deleteIfVersion k base now t).2 :=
  h.updateWhere fun r _ _ => markDeleted_key now r

end Versioned
