import TokyoTester.Library.Table

set_option autoImplicit false

/-! # Values that stay done

A map of values by key, some of which are done. `Kept` compares two such maps: what is done in the
first is there and done in the second. A write of one key keeps what is done exactly when the key
was not done before or the new value is. -/

namespace Latch

open Table

variable {κ ρ : Type} {done : ρ → Bool}

/-- What is done in `m` is done in `m'`. -/
def Kept (done : ρ → Bool) (m m' : κ → Option ρ) : Prop :=
  ∀ k, (m k).any done = true → (m' k).any done = true

theorem Kept.refl (m : κ → Option ρ) : Kept done m m := fun _ h => h

theorem Kept.trans {m m' m'' : κ → Option ρ} (h : Kept done m m') (h' : Kept done m' m'') :
    Kept done m m'' :=
  fun k hk => h' k (h k hk)

variable [DecidableEq κ]

/-- **A write of one key** keeps what was done exactly when it does not write over it. -/
theorem Kept.update_iff {m m' : κ → Option ρ} {k : κ} {r : ρ} (h : Kept done m m') :
    Kept done m (Function.update m' k (some r)) ↔ ((m k).any done = true → done r = true) := by
  constructor
  · intro hkept hk
    have hdone := hkept k hk
    rwa [Function.update_self] at hdone
  · intro hr i hi
    by_cases hik : i = k
    · rw [hik] at hi ⊢
      rw [Function.update_self]
      exact hr hi
    · rw [Function.update_of_ne hik]
      exact h i hi

/-- A write to a key that has a value. -/
def overwrite (m : κ → Option ρ) (w : κ × ρ) : κ → Option ρ :=
  fun k => (m k).map fun r => if w.1 = k then w.2 else r

/-- The last value that is written to a key. -/
def lastWrite (k : κ) : List (κ × ρ) → Option ρ
  | [] => none
  | w :: ws => (lastWrite k ws).or (if w.1 = k then some w.2 else none)

/-- One of the writes is to a key that is done, and the key ends up with a value that is not. -/
def undoes (done : ρ → Bool) (m : κ → Option ρ) (ws : List (κ × ρ)) : Bool :=
  ws.any fun w => (m w.1).any done && !(lastWrite w.1 ws).all done

theorem exists_of_lastWrite {k : κ} {r : ρ} {ws : List (κ × ρ)} (h : lastWrite k ws = some r) :
    ∃ w ∈ ws, w.1 = k := by
  induction ws with
  | nil => cases h
  | cons w ws ih =>
      by_cases hw : w.1 = k
      · exact ⟨w, List.mem_cons_self, hw⟩
      · simp only [lastWrite, if_neg hw, Option.or_none] at h
        obtain ⟨v, hv, hk⟩ := ih h
        exact ⟨v, List.mem_cons_of_mem w hv, hk⟩

theorem overwrites_apply (ws : List (κ × ρ)) (m : κ → Option ρ) (k : κ) :
    ws.foldl overwrite m k = (m k).map fun r => (lastWrite k ws).getD r := by
  induction ws generalizing m with
  | nil =>
      show m k = (m k).map fun r => r
      simp
  | cons w ws ih =>
      rw [List.foldl_cons, ih, overwrite, lastWrite, Option.map_map]
      congr 1
      funext r
      show (lastWrite k ws).getD (if w.1 = k then w.2 else r) = _
      by_cases hw : w.1 = k
      · cases lastWrite k ws <;> simp [hw]
      · simp [hw]

/-- **Writes of several keys** keep what was done exactly when they undo nothing. -/
theorem Kept.overwrites_iff {m : κ → Option ρ} {ws : List (κ × ρ)} :
    Kept done m (ws.foldl overwrite m) ↔ undoes done m ws = false := by
  simp only [undoes, List.any_eq_false, Bool.and_eq_true, Bool.not_eq_true', not_and,
    Bool.not_eq_false]
  constructor
  · intro hkept w hw hdone
    have hafter := hkept w.1 hdone
    rw [overwrites_apply] at hafter
    cases hlast : lastWrite w.1 ws with
    | none => rfl
    | some r =>
        obtain ⟨old, hold⟩ := Option.isSome_iff_exists.1 (Option.isSome_of_any hdone)
        simpa [hold, hlast] using hafter
  · intro hall k hdone
    obtain ⟨old, hold, hd⟩ := (Option.any_eq_true _ _).1 hdone
    rw [overwrites_apply, hold]
    cases hlast : lastWrite k ws with
    | none => exact hd
    | some r =>
        obtain ⟨w, hw, rfl⟩ := exists_of_lastWrite hlast
        have hr := hall w hw hdone
        rwa [hlast] at hr

/-- A property of the rows of a table by their key, after a write of it to the rows of one key. -/
theorem map_find_updateWhere_of_write {τ : Type} (key : ρ → κ) (prop : ρ → τ) {f : ρ → ρ} {k : κ}
    {v : τ} (hkey : ∀ r, key (f r) = key r) (hf : ∀ r, prop (f r) = v) (t : List ρ) :
    (fun i => (find key i (Table.updateWhere (fun r => key r = k) f t)).map prop)
      = overwrite (fun i => (find key i t).map prop) (k, v) := by
  funext i
  rw [find_updateWhere fun r _ _ => hkey r]
  show _ = ((find key i t).map prop).map fun r => if k = i then v else r
  cases h : find key i t with
  | none => rfl
  | some r =>
      obtain ⟨-, rfl⟩ := find_some h
      by_cases hr : key r = k
      · simp [hr, hf]
      · simp [hr, Ne.symm hr]

/-- The same when the update leaves the property alone. -/
theorem map_find_updateWhere_of_eq {τ : Type} (key : ρ → κ) (prop : ρ → τ) {p : ρ → Bool}
    {f : ρ → ρ} (hkey : ∀ r, key (f r) = key r) (hf : ∀ r, prop (f r) = prop r) (t : List ρ) :
    (fun i => (find key i (Table.updateWhere p f t)).map prop)
      = fun i => (find key i t).map prop := by
  funext i
  rw [find_updateWhere fun r _ _ => hkey r, Option.map_map]
  congr 1
  funext r
  show prop (if p r then f r else r) = prop r
  split_ifs
  · exact hf r
  · rfl

/-- **An update of some rows** that keeps their keys, and keeps them done. -/
theorem Kept.updateWhere {key : ρ → κ} {m : κ → Option ρ} {p : ρ → Bool} {f : ρ → ρ} {t : List ρ}
    (h : Kept done m fun k => find key k t) (hkey : ∀ r, key (f r) = key r)
    (hf : ∀ r, done r = true → done (f r) = true) :
    Kept done m fun k => find key k (Table.updateWhere p f t) := by
  intro k hk
  obtain ⟨r, hr, hdone⟩ := (Option.any_eq_true _ _).1 (h k hk)
  dsimp only at hr ⊢
  rw [find_updateWhere fun r _ _ => hkey r, hr]
  show done (if p r then f r else r) = true
  split_ifs
  · exact hf r hdone
  · exact hdone

end Latch
