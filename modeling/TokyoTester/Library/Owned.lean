import TokyoTester.Library.Table

set_option autoImplicit false

/-! # Tables whose rows have an owner

Rows are addressed by a key and belong to an owner. A party `p` edits a table: each selected row
either becomes `p`'s or moves on to a later stage of its life. The question is whether rows of
other owners survive, and one edit decides it only together with the edits that follow: a row
that was lost could come back. It cannot, because a row of `p` stays `p`'s and stages only grow;
so `Lost` composes with what comes before and after, and ends in a row that is not there. -/

namespace Owned

open Table

/-- What an owned row is addressed by, who owns it and how far its life has gone. -/
class OwnedRow (ρ : Type) where
  key : ρ → String
  owner : ρ → String
  stage : ρ → Nat

open OwnedRow

variable {ρ : Type} [OwnedRow ρ] {p : String} {bound : Prop} {t t' t'' : List ρ} {r r' r'' : ρ}

/-- The row became `p`'s, or moved on under its owner. -/
def Moved (p : String) (r r' : ρ) : Prop :=
  owner r' = p ∨ (owner r' = owner r ∧ stage r < stage r')

theorem Moved.trans (h₁ : Moved p r r') (h₂ : Moved p r' r'') : Moved p r r'' := by
  rcases h₂ with hp | ⟨ho, hs⟩
  · exact .inl hp
  · rcases h₁ with hp' | ⟨ho', hs'⟩
    · exact .inl (ho.trans hp')
    · exact .inr ⟨ho.trans ho', hs'.trans hs⟩

/-- A row of another owner that moved is another row. -/
theorem Moved.ne (h : Moved p r r') (hforeign : owner r ≠ p) : r' ≠ r := by
  rintro rfl
  rcases h with hp | ⟨-, hs⟩
  · exact hforeign hp
  · exact lt_irrefl _ hs

/-! ## One edit -/

/-- The edit of the rows that `sel` selects. What it does to them is known only when the party
    writes rows of its own (`bound`). -/
structure Edit (bound : Prop) (p : String) (sel : ρ → Bool) (t t' : List ρ) : Prop where
  keyed : Keyed (key : ρ → String) t → Keyed (key : ρ → String) t'
  same : ∀ r ∈ t, sel r = false → r ∈ t'
  moved : bound → ∀ r ∈ t, sel r = true → ∃ r' ∈ t', key r' = key r ∧ Moved p r r'
  origin : bound → ∀ r' ∈ t', owner r' = p ∨ ∃ r ∈ t, key r = key r'

/-- An edit that selects nothing. -/
theorem Edit.none : Edit bound p (fun _ => false) t t where
  keyed h := h
  same r hr _ := hr
  moved _ r _ h := by cases h
  origin _ r hr := .inr ⟨r, hr, rfl⟩

theorem Edit.of_eq {sel : ρ → Bool} (ht : t' = t) (hsel : ∀ r ∈ t, sel r = false) :
    Edit bound p sel t t' := by
  subst ht
  refine ⟨fun h => h, fun r hr _ => hr, ?_, fun _ r hr => .inr ⟨r, hr, rfl⟩⟩
  intro _ r hr h
  rw [hsel r hr] at h
  cases h

theorem Edit.congr {sel sel' : ρ → Bool} (h : Edit bound p sel t t')
    (hsel : ∀ r ∈ t, sel' r = sel r) : Edit bound p sel' t t' :=
  ⟨h.keyed, fun r hr hs => h.same r hr (hsel r hr ▸ hs),
    fun hb r hr hs => h.moved hb r hr (hsel r hr ▸ hs), h.origin⟩

theorem Edit.imp {bound' : Prop} {sel : ρ → Bool} (h : Edit bound p sel t t')
    (hb : bound' → bound) : Edit bound' p sel t t' :=
  ⟨h.keyed, h.same, fun hb' => h.moved (hb hb'), fun hb' => h.origin (hb hb')⟩

/-- `UPDATE … WHERE` is an edit. -/
theorem Edit.updateWhere {sel : ρ → Bool} {f : ρ → ρ} (hkey : ∀ r, key (f r) = key r)
    (hmoved : bound → ∀ r ∈ t, sel r = true → Moved p r (f r)) :
    Edit bound p sel t (updateWhere sel f t) where
  keyed h := h.updateWhere fun r _ _ => hkey r
  same r hr hs := mem_updateWhere.2 ⟨r, hr, by simp [hs]⟩
  moved hb r hr hs :=
    ⟨f r, mem_updateWhere.2 ⟨r, hr, by simp [hs]⟩, hkey r, hmoved hb r hr hs⟩
  origin _ r' hr' := by
    obtain ⟨r, hr, rfl⟩ := mem_updateWhere.1 hr'
    refine .inr ⟨r, hr, ?_⟩
    split
    · exact (hkey r).symm
    · rfl

/-- `INSERT … ON DUPLICATE KEY UPDATE` is an edit of the row with its key. -/
theorem Edit.upsert {row : ρ} {merge : ρ → ρ} (hkey : ∀ r, key (merge r) = key r)
    (hrow : bound → owner row = p) (hmerge : bound → ∀ r, owner (merge r) = p) :
    Edit bound p (fun r => decide (key r = key row)) t (upsert key row merge t) := by
  cases hf : find key (key row) t with
  | some s =>
      rw [upsert_of_some hf]
      exact .updateWhere hkey fun hb r _ _ => .inl (hmerge hb r)
  | none =>
      have hnew := find_eq_none.1 hf
      rw [upsert_of_none hf]
      refine ⟨fun h => h.append hnew, fun r hr _ => List.mem_append.2 (.inl hr), ?_, ?_⟩
      · intro _ r hr hs
        exact absurd (of_decide_eq_true hs) (hnew r hr)
      · intro hb r' hr'
        rcases List.mem_append.1 hr' with hr' | hr'
        · exact .inr ⟨r', hr', rfl⟩
        · rw [List.mem_singleton.1 hr']
          exact .inl (hrow hb)

/-! ## A sequence of edits -/

/-- What any sequence of edits by `p` does to a table. -/
structure Drift (p : String) (t t' : List ρ) : Prop where
  keyed : Keyed (key : ρ → String) t → Keyed (key : ρ → String) t'
  moved : ∀ r ∈ t, ∃ r' ∈ t', key r' = key r ∧ (r' = r ∨ Moved p r r')
  origin : ∀ r' ∈ t', owner r' = p ∨ ∃ r ∈ t, key r = key r'

theorem Drift.refl (p : String) (t : List ρ) : Drift p t t :=
  ⟨fun h => h, fun r hr => ⟨r, hr, rfl, .inl rfl⟩, fun r hr => .inr ⟨r, hr, rfl⟩⟩

theorem Edit.drift {sel : ρ → Bool} (h : Edit bound p sel t t') (hb : bound) : Drift p t t' := by
  refine ⟨h.keyed, fun r hr => ?_, h.origin hb⟩
  cases hs : sel r with
  | false => exact ⟨r, h.same r hr hs, rfl, .inl rfl⟩
  | true =>
      obtain ⟨r', hr', hk, hm⟩ := h.moved hb r hr hs
      exact ⟨r', hr', hk, .inr hm⟩

/-- A row of another owner was edited: its key now has a row that moved. -/
def Lost (p : String) (t t' : List ρ) : Prop :=
  ∃ r ∈ t, owner r ≠ p ∧ ∃ r' ∈ t', key r' = key r ∧ Moved p r r'

theorem Lost.drift (h : Lost p t t') (hd : Drift p t' t'') : Lost p t t'' := by
  obtain ⟨r, hr, hforeign, r', hr', hk, hm⟩ := h
  obtain ⟨r'', hr'', hk', hm'⟩ := hd.moved r' hr'
  refine ⟨r, hr, hforeign, r'', hr'', hk'.trans hk, ?_⟩
  rcases hm' with rfl | hm'
  · exact hm
  · exact hm.trans hm'

/-- The row that is lost later was there, under its owner, from the start. -/
theorem Drift.lost (hd : Drift p t t') (hkeyed : Keyed (key : ρ → String) t)
    (h : Lost p t' t'') : Lost p t t'' := by
  obtain ⟨r', hr', hforeign, r'', hr'', hk, hm⟩ := h
  rcases hd.origin r' hr' with hp | ⟨r, hr, hkr⟩
  · exact absurd hp hforeign
  · obtain ⟨s, hs, hks, hms⟩ := hd.moved r hr
    have hsr : s = r' := (hd.keyed hkeyed).eq_of_key hs hr' (hks.trans hkr)
    subst hsr
    rcases hms with rfl | hms
    · exact ⟨s, hr, hforeign, r'', hr'', hk, hm⟩
    · refine ⟨r, hr, ?_, r'', hr'', hk.trans hks, hms.trans hm⟩
      rcases hms with hp | ⟨ho, -⟩
      · exact absurd hp hforeign
      · rwa [← ho]

/-- With unique keys, a lost row is not in the table any more. -/
theorem Lost.not_kept (h : Lost p t t') (hkeyed : Keyed (key : ρ → String) t') :
    ¬ ∀ r ∈ t, owner r ≠ p → r ∈ t' := by
  intro hkept
  obtain ⟨r, hr, hforeign, r', hr', hk, hm⟩ := h
  exact hm.ne hforeign (hkeyed.eq_of_key hr' (hkept r hr hforeign) hk)

end Owned
