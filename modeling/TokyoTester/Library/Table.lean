import Mathlib.Data.List.Nodup
import Mathlib.Tactic

set_option autoImplicit false

/-! # Tables of rows under conditional updates

A table is the list of its rows. A statement of the store either rewrites the rows a condition
selects (`updateWhere`), appends a row or, on a duplicate key, rewrites the row that is there
(`upsert`). Nothing else reorders or removes rows, so what a statement does to one row is what
the condition and the assignment say about that row.

The driver reports for an update how many rows it *changed*, not how many it matched:
`rowsAffected`. When the condition fixes the primary key this is one exactly when the row is
there, meets the condition and differs from its new value. -/

/-! ## Transactions -/

namespace Transaction

variable {σ ε α β : Type}

/-- The state after a transaction: a failed one is rolled back. -/
def after (t : Except ε (α × σ)) (s : σ) : σ :=
  match t with
  | .ok (_, s') => s'
  | .error _ => s

@[simp] theorem after_ok (a : α) (s s' : σ) :
    after (.ok (a, s') : Except ε (α × σ)) s = s' := rfl

@[simp] theorem after_error (e : ε) (s : σ) :
    after (.error e : Except ε (α × σ)) s = s := rfl

/-- A transaction that succeeds went through both of its halves. -/
theorem bind_eq_ok {x : Except ε α} {f : α → Except ε β} {b : β} :
    (x >>= f) = .ok b ↔ ∃ a, x = .ok a ∧ f a = .ok b := by
  cases x with
  | error e => simp [bind, Except.bind]
  | ok a => simp [bind, Except.bind]

/-- Two checks pass one after the other. -/
theorem then_eq_ok {x : Except ε Unit} {next : Unit → Except ε α} {a : α} :
    (x >>= next) = .ok a ↔ x = .ok () ∧ next () = .ok a := by
  cases x with
  | error e => simp [bind, Except.bind]
  | ok u => simp [bind, Except.bind]

/-- A loop of checks passes when each of them does. -/
theorem forM_eq_ok {xs : List α} {f : α → Except ε Unit} :
    xs.forM f = .ok () ↔ ∀ x ∈ xs, f x = .ok () := by
  induction xs with
  | nil => exact ⟨fun _ => by simp, fun _ => rfl⟩
  | cons x xs ih =>
      rw [List.forall_mem_cons, ← ih]
      exact then_eq_ok

theorem map_eq_ok {x : Except ε α} {f : α → β} {b : β} :
    x.map f = .ok b ↔ ∃ a, x = .ok a ∧ f a = b := by
  cases x with
  | error e => simp [Except.map]
  | ok a => simp [Except.map]

/-- A transaction fails when its first half does, or its second half after it. -/
theorem bind_eq_error {x : Except ε α} {f : α → Except ε β} :
    (∃ e, (x >>= f) = .error e) ↔ (∃ e, x = .error e) ∨ ∃ a, x = .ok a ∧ ∃ e, f a = .error e := by
  cases x with
  | error e => simp [bind, Except.bind]
  | ok a => simp [bind, Except.bind]

/-- A guarded statement fails when its guard holds or the statement fails. -/
theorem guard_eq_error {c : Prop} [Decidable c] {e : ε} {x : Except ε α} :
    (∃ e', (if c then .error e else x) = .error e') ↔ c ∨ ∃ e', x = .error e' := by
  split_ifs with hc
  · simp [hc]
  · simp [hc]

end Transaction

namespace Table

variable {ρ κ : Type}

/-! ## Conditional updates -/

/-- `UPDATE … SET f WHERE p`. -/
def updateWhere (p : ρ → Bool) (f : ρ → ρ) (t : List ρ) : List ρ :=
  t.map fun r => if p r then f r else r

/-- The number of rows an update really changes. -/
def rowsAffected [DecidableEq ρ] (p : ρ → Bool) (f : ρ → ρ) (t : List ρ) : Nat :=
  t.countP fun r => p r && decide (f r ≠ r)

/-- The key is unique in the table. -/
def Keyed (key : ρ → κ) (t : List ρ) : Prop := (t.map key).Nodup

instance [DecidableEq κ] (key : ρ → κ) (t : List ρ) : Decidable (Keyed key t) :=
  inferInstanceAs (Decidable (t.map key).Nodup)

variable {key : ρ → κ} {t : List ρ} {p : ρ → Bool} {f : ρ → ρ}

theorem keyed_nil : Keyed key ([] : List ρ) := by
  simp [Keyed]

/-- A key has one row. -/
theorem Keyed.eq_of_key {r s : ρ} (h : Keyed key t) (hr : r ∈ t) (hs : s ∈ t)
    (hk : key r = key s) : r = s :=
  List.inj_on_of_nodup_map h hr hs hk

theorem mem_updateWhere {r : ρ} :
    r ∈ updateWhere p f t ↔ ∃ s ∈ t, r = if p s then f s else s := by
  simp only [updateWhere, List.mem_map]
  constructor
  · rintro ⟨s, hs, rfl⟩
    exact ⟨s, hs, rfl⟩
  · rintro ⟨s, hs, rfl⟩
    exact ⟨s, hs, rfl⟩

/-- An update that leaves every selected row as it is changes nothing. -/
theorem updateWhere_eq_self (h : ∀ r ∈ t, p r = true → f r = r) : updateWhere p f t = t := by
  unfold updateWhere
  conv_rhs => rw [← List.map_id t]
  apply List.map_congr_left
  intro r hr
  by_cases hp : p r = true
  · simp [hp, h r hr hp]
  · simp [hp]

/-- A conditional update that changed the table found a row to update. -/
theorem exists_of_updateWhere_ne (h : updateWhere p f t ≠ t) :
    ∃ r ∈ t, p r = true := by
  by_contra hnone
  apply h
  apply updateWhere_eq_self
  intro r hr hp
  exact absurd ⟨r, hr, hp⟩ hnone

theorem map_key_updateWhere (hf : ∀ r ∈ t, p r = true → key (f r) = key r) :
    (updateWhere p f t).map key = t.map key := by
  unfold updateWhere
  rw [List.map_map]
  apply List.map_congr_left
  intro r hr
  by_cases hp : p r = true
  · simp [hp, hf r hr hp]
  · simp [hp]

theorem Keyed.updateWhere (h : Keyed key t) (hf : ∀ r ∈ t, p r = true → key (f r) = key r) :
    Keyed key (updateWhere p f t) := by
  unfold Keyed
  rw [map_key_updateWhere hf]
  exact h

theorem Keyed.append {row : ρ} (h : Keyed key t) (hnew : ∀ r ∈ t, key r ≠ key row) :
    Keyed key (t ++ [row]) := by
  unfold Keyed at *
  rw [List.map_append, List.map_singleton]
  refine List.Nodup.append h (List.nodup_singleton _) ?_
  intro k hk hrow
  obtain ⟨r, hr, rfl⟩ := List.mem_map.1 hk
  exact hnew r hr (List.mem_singleton.1 hrow)

theorem rowsAffected_pos_iff [DecidableEq ρ] :
    0 < rowsAffected p f t ↔ ∃ r ∈ t, p r = true ∧ f r ≠ r := by
  unfold rowsAffected
  rw [List.countP_pos_iff]
  simp

/-- Where the condition fixes the key, at most one row is affected. -/
theorem Keyed.rowsAffected_le_one [DecidableEq ρ] {k : κ} (h : Keyed key t)
    (hp : ∀ r, p r = true → key r = k) : rowsAffected p f t ≤ 1 := by
  induction t with
  | nil => simp [rowsAffected]
  | cons r t ih =>
      have htail : Keyed key t := (List.nodup_cons.1 h).2
      have hnot : key r ∉ t.map key := (List.nodup_cons.1 h).1
      have hrest := ih htail
      unfold rowsAffected at hrest ⊢
      rw [List.countP_cons]
      by_cases hr : (p r && decide (f r ≠ r)) = true
      · have hkr : key r = k := hp r (by simp only [Bool.and_eq_true] at hr; exact hr.1)
        have hzero : t.countP (fun s => p s && decide (f s ≠ s)) = 0 := by
          rw [List.countP_eq_zero]
          intro s hs hsel
          simp only [Bool.and_eq_true] at hsel
          exact hnot (List.mem_map.2 ⟨s, hs, (hp s hsel.1).trans hkr.symm⟩)
        rw [if_pos hr, hzero]
      · rw [if_neg hr]
        exact hrest

/-- Where the condition fixes the key, one row is affected exactly when some row is. -/
theorem Keyed.rowsAffected_eq_one_iff [DecidableEq ρ] {k : κ} (h : Keyed key t)
    (hp : ∀ r, p r = true → key r = k) :
    rowsAffected p f t = 1 ↔ ∃ r ∈ t, p r = true ∧ f r ≠ r := by
  have hle := h.rowsAffected_le_one (f := f) hp
  rw [← rowsAffected_pos_iff]
  omega

/-! ## Lookups and insertions by key -/

variable [DecidableEq κ]

/-- The row with a given key. -/
def find (key : ρ → κ) (k : κ) (t : List ρ) : Option ρ := t.find? fun r => decide (key r = k)

/-- The table with the row of `row`'s key replaced by `row`. -/
def replace (key : ρ → κ) (row : ρ) (t : List ρ) : List ρ :=
  updateWhere (fun r => decide (key r = key row)) (fun _ => row) t

/-- `INSERT … ON DUPLICATE KEY UPDATE merge`. -/
def upsert (key : ρ → κ) (row : ρ) (merge : ρ → ρ) (t : List ρ) : List ρ :=
  if (find key (key row) t).isSome then updateWhere (fun r => decide (key r = key row)) merge t
  else t ++ [row]

theorem find_some {k : κ} {r : ρ} (h : find key k t = some r) : r ∈ t ∧ key r = k := by
  refine ⟨List.mem_of_find?_eq_some h, ?_⟩
  simpa using List.find?_some h

theorem find_eq_none {k : κ} : find key k t = none ↔ ∀ r ∈ t, key r ≠ k := by
  simp [find, List.find?_eq_none]

theorem Keyed.find_mem {r : ρ} (h : Keyed key t) (hr : r ∈ t) :
    find key (key r) t = some r := by
  cases hf : find key (key r) t with
  | none => exact absurd rfl (find_eq_none.1 hf r hr)
  | some s =>
      obtain ⟨hs, hk⟩ := find_some hf
      rw [h.eq_of_key hs hr hk]

/-- The row of a key after an update is the updated row of that key. -/
theorem find_updateWhere (hf : ∀ r ∈ t, p r = true → key (f r) = key r) (k : κ) :
    find key k (Table.updateWhere p f t)
      = (find key k t).map fun r => if p r then f r else r := by
  have hkey : ∀ r ∈ t, key (if p r then f r else r) = key r := by
    intro r hr
    by_cases hp : p r = true
    · simp [hp, hf r hr hp]
    · simp [hp]
  clear hf
  unfold find Table.updateWhere
  induction t with
  | nil => rfl
  | cons r t ih =>
      have hr := hkey r (by simp)
      have htail := ih (fun s hs => hkey s (by simp [hs]))
      simp only [List.map_cons, List.find?_cons, hr]
      by_cases hk : key r = k
      · simp [hk]
      · simpa [hk] using htail

/-- An update whose condition fixes the key of a row it selects replaces that row. -/
theorem Keyed.updateWhere_eq_replace {r : ρ} (h : Keyed key t) (hr : r ∈ t) (hpr : p r = true)
    (hp : ∀ s, p s = true → key s = key r) (hf : key (f r) = key r) :
    Table.updateWhere p f t = replace key (f r) t := by
  unfold replace Table.updateWhere
  apply List.map_congr_left
  intro s hs
  by_cases hk : key s = key r
  · rw [h.eq_of_key hs hr hk]
    simp [hpr, hf]
  · have hps : ¬ p s = true := fun hsel => hk (hp s hsel)
    simp [hps, hf, hk]

theorem mem_replace {row r : ρ} (h : r ∈ replace key row t) :
    r = row ∨ (r ∈ t ∧ key r ≠ key row) := by
  obtain ⟨s, hs, rfl⟩ := mem_updateWhere.1 h
  by_cases hk : key s = key row
  · left
    simp [hk]
  · right
    simp [hk, hs]

theorem mem_replace_of_ne {row r : ρ} (h : r ∈ t) (hk : key r ≠ key row) :
    r ∈ replace key row t :=
  mem_updateWhere.2 ⟨r, h, by simp [hk]⟩

theorem mem_replace_self {row r : ρ} (h : r ∈ t) (hk : key r = key row) :
    row ∈ replace key row t :=
  mem_updateWhere.2 ⟨r, h, by simp [hk]⟩

theorem find_replace {row : ρ} (k : κ) :
    find key k (replace key row t)
      = if k = key row then (find key k t).map fun _ => row else find key k t := by
  unfold replace
  rw [find_updateWhere (fun r _ hr => (of_decide_eq_true hr).symm)]
  cases hf : find key k t with
  | none => simp
  | some r =>
      have hkr := (find_some hf).2
      by_cases hk : k = key row
      · simp [hkr, hk]
      · simp [hkr, hk]

theorem Keyed.replace {κ' : Type} {key' : ρ → κ'} {row : ρ} (h : Keyed key' t)
    (hrow : ∀ r ∈ t, key r = key row → key' row = key' r) : Keyed key' (replace key row t) :=
  h.updateWhere fun r hr hsel => hrow r hr (of_decide_eq_true hsel)

/-- Replacing a row moves one row between those that satisfy a condition and those that do not. -/
theorem Keyed.countP_replace {row r : ρ} (h : Keyed key t) (hr : r ∈ t) (hk : key row = key r)
    (q : ρ → Bool) :
    (Table.replace key row t).countP q + (if q r then 1 else 0)
      = t.countP q + (if q row then 1 else 0) := by
  induction t with
  | nil => cases hr
  | cons x xs ih =>
      obtain ⟨hx, hxs⟩ := List.nodup_cons.1 h
      have hcons : Table.replace key row (x :: xs)
          = (if key x = key row then row else x) :: Table.replace key row xs := by
        simp [Table.replace, Table.updateWhere]
      rw [hcons, List.countP_cons, List.countP_cons]
      rcases List.mem_cons.1 hr with rfl | hr
      · -- the row is the head, and no other row has its key
        have hrest : Table.replace key row xs = xs := by
          apply updateWhere_eq_self
          intro s hs hsel
          exact absurd (List.mem_map.2 ⟨s, hs, (of_decide_eq_true hsel).trans hk⟩) hx
        rw [hrest, if_pos hk.symm]
        omega
      · have hne : ¬ key x = key row := by
          intro hxr
          exact hx (List.mem_map.2 ⟨r, hr, (hxr.trans hk).symm⟩)
        have := ih hxs hr
        rw [if_neg hne]
        omega

theorem find_append {row : ρ} (k : κ) :
    find key k (t ++ [row])
      = (find key k t).or (if key row = k then some row else none) := by
  unfold find
  rw [List.find?_append]
  by_cases h : key row = k <;> simp [h]

theorem upsert_of_some {row r : ρ} {merge : ρ → ρ} (h : find key (key row) t = some r) :
    upsert key row merge t
      = Table.updateWhere (fun s => decide (key s = key row)) merge t := by
  simp [upsert, h]

theorem upsert_of_none {row : ρ} {merge : ρ → ρ} (h : find key (key row) t = none) :
    upsert key row merge t = t ++ [row] := by
  simp [upsert, h]

/-- The row of a key after an upsert. -/
theorem find_upsert {row : ρ} {merge : ρ → ρ}
    (hmerge : ∀ r ∈ t, key r = key row → key (merge r) = key r) (k : κ) :
    find key k (upsert key row merge t)
      = if k = key row then some ((find key k t).elim row merge) else find key k t := by
  cases h : find key (key row) t with
  | none =>
      rw [upsert_of_none h, find_append]
      by_cases hk : k = key row
      · subst hk
        simp [h]
      · have hk' : ¬ key row = k := fun heq => hk heq.symm
        simp [hk, hk']
  | some r =>
      rw [upsert_of_some h, find_updateWhere fun r hr hsel => hmerge r hr (of_decide_eq_true hsel)]
      by_cases hk : k = key row
      · subst hk
        simp [h, (find_some h).2]
      · simp only [hk, if_false]
        cases hf : find key k t with
        | none => rfl
        | some s => simp [(find_some hf).2, hk]

/-- The rows of a table by their key, after an upsert. -/
theorem find_upsert_eq_update {key : ρ → κ} {row : ρ} {merge : ρ → ρ} {t : List ρ}
    (hmerge : ∀ r, key (merge r) = key r) :
    (fun k => find key k (upsert key row merge t))
      = Function.update (fun k => find key k t) (key row)
        (some ((find key (key row) t).elim row merge)) := by
  funext k
  rw [find_upsert fun r _ _ => hmerge r, Function.update_apply]
  split_ifs with hk
  · rw [hk]
  · rfl

/-- A row after an upsert is the new one, an old one, or an old one of the same key merged. -/
theorem mem_upsert {row r : ρ} {merge : ρ → ρ} (h : r ∈ upsert key row merge t) :
    r = row ∨ r ∈ t ∨ ∃ old ∈ t, key old = key row ∧ r = merge old := by
  unfold Table.upsert at h
  split_ifs at h
  · obtain ⟨old, hold, rfl⟩ := mem_updateWhere.1 h
    split_ifs with hkey
    · exact .inr (.inr ⟨old, hold, of_decide_eq_true hkey, rfl⟩)
    · exact .inr (.inl hold)
  · rcases List.mem_append.1 h with h | h
    · exact .inr (.inl h)
    · exact .inl (List.mem_singleton.1 h)

/-- An upsert among the rows of a selection that has all rows of the key. -/
theorem filter_upsert {row : ρ} {merge : ρ → ρ} (hrow : p row = true)
    (hmerge : ∀ r, p (merge r) = p r) (hkey : ∀ r ∈ t, key r = key row → p r = true) :
    (upsert key row merge t).filter p = upsert key row merge (t.filter p) := by
  cases hfind : find key (key row) t with
  | none =>
      have hnone : find key (key row) (t.filter p) = none :=
        find_eq_none.2 fun r hr => find_eq_none.1 hfind r (List.mem_filter.1 hr).1
      rw [upsert_of_none hfind, upsert_of_none hnone, List.filter_append]
      simp [hrow]
  | some old =>
      obtain ⟨hold, holdKey⟩ := find_some hfind
      have hsome : (find key (key row) (t.filter p)).isSome = true := by
        rw [find, List.find?_isSome]
        exact ⟨old, List.mem_filter.2 ⟨hold, hkey old hold holdKey⟩, by simpa using holdKey⟩
      obtain ⟨old', hold'⟩ := Option.isSome_iff_exists.1 hsome
      rw [upsert_of_some hfind, upsert_of_some hold', Table.updateWhere, Table.updateWhere,
        List.filter_map]
      congr 1
      refine List.filter_congr fun r _ => ?_
      rw [Function.comp_apply]
      split_ifs
      · exact hmerge r
      · rfl

theorem Keyed.upsert {row : ρ} {merge : ρ → ρ} (h : Keyed key t)
    (hmerge : ∀ r, key (merge r) = key r) : Keyed key (upsert key row merge t) := by
  cases hf : find key (key row) t with
  | none =>
      rw [upsert_of_none hf]
      exact h.append (find_eq_none.1 hf)
  | some r =>
      rw [upsert_of_some hf]
      exact h.updateWhere (fun r _ _ => hmerge r)

end Table
