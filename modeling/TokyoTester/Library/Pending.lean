import Mathlib.Logic.Function.Basic
import Mathlib.Tactic

set_option autoImplicit false

/-! # Pending operations on keyed values

A party holds a list of operations that another party has not performed yet. Each operation
addresses a key, is acceptable in some values of that key (`ok`) and has an effect on it. The
list is right for a key when its operations, performed in their order, are all acceptable and end
in the value the first party expects: `Chain`. Operations of different keys do not meet, so it is
enough to look at each key's own sublist. -/

namespace Pending

/-- Operations on keyed values. -/
structure Log (κ ω ν : Type) where
  key : ω → κ
  ok : ω → Option ν → Prop
  effect : ω → Option ν → Option ν

variable {κ ω ν : Type} [DecidableEq κ] {L : Log κ ω ν}

/-- The operations of one key. -/
def Log.ofKey (L : Log κ ω ν) (k : κ) (ops : List ω) : List ω :=
  ops.filter fun op => decide (L.key op = k)

/-- The operations lead from one value to another, each acceptable where it is performed. -/
def Log.Chain (L : Log κ ω ν) : Option ν → List ω → Option ν → Prop
  | s, [], l => s = l
  | s, op :: ops, l => L.ok op s ∧ L.Chain (L.effect op s) ops l

omit [DecidableEq κ] in
theorem chain_append {s l : Option ν} {ops ops' : List ω} :
    L.Chain s (ops ++ ops') l ↔ ∃ m, L.Chain s ops m ∧ L.Chain m ops' l := by
  induction ops generalizing s with
  | nil => simp [Log.Chain]
  | cons op ops ih =>
      simp only [List.cons_append, Log.Chain, ih]
      constructor
      · rintro ⟨hok, m, h₁, h₂⟩
        exact ⟨m, ⟨hok, h₁⟩, h₂⟩
      · rintro ⟨m, ⟨hok, h₁⟩, h₂⟩
        exact ⟨hok, m, h₁, h₂⟩

omit [DecidableEq κ] in
/-- A chain is extended by an operation that its end accepts. -/
theorem chain_snoc {s l : Option ν} {ops : List ω} {op : ω} (h : L.Chain s ops l)
    (hok : L.ok op l) : L.Chain s (ops ++ [op]) (L.effect op l) :=
  chain_append.2 ⟨l, h, hok, rfl⟩

theorem ofKey_append (k : κ) (ops ops' : List ω) :
    L.ofKey k (ops ++ ops') = L.ofKey k ops ++ L.ofKey k ops' := by
  simp [Log.ofKey]

theorem ofKey_cons_self (op : ω) (ops : List ω) :
    L.ofKey (L.key op) (op :: ops) = op :: L.ofKey (L.key op) ops := by
  simp [Log.ofKey]

theorem ofKey_cons_of_ne {k : κ} {op : ω} (h : L.key op ≠ k) (ops : List ω) :
    L.ofKey k (op :: ops) = L.ofKey k ops := by
  simp [Log.ofKey, h]

theorem ofKey_eq_nil {k : κ} {ops : List ω} (h : ∀ op ∈ ops, L.key op ≠ k) :
    L.ofKey k ops = [] := by
  simpa [Log.ofKey, List.filter_eq_nil_iff] using h

/-! ## Performing a list of operations -/

/-- Every key's operations lead somewhere. -/
def Log.Ready (L : Log κ ω ν) (view : κ → Option ν) (ops : List ω) : Prop :=
  ∀ k, ∃ l, L.Chain (view k) (L.ofKey k ops) l

/-- Every key's operations, and then those of `rest`, lead to `goal`. -/
def Log.Leads (L : Log κ ω ν) (view : κ → Option ν) (ops : List ω) (rest : κ → List ω)
    (goal : κ → Option ν) : Prop :=
  ∀ k, L.Chain (view k) (L.ofKey k ops ++ rest k) (goal k)

theorem Log.Leads.ready {view : κ → Option ν} {ops : List ω} {rest : κ → List ω}
    {goal : κ → Option ν} (h : L.Leads view ops rest goal) : L.Ready view ops := by
  intro k
  obtain ⟨m, hm, -⟩ := chain_append.1 (h k)
  exact ⟨m, hm⟩

theorem Log.Ready.head {view : κ → Option ν} {op : ω} {ops : List ω} (h : L.Ready view (op :: ops)) :
    L.ok op (view (L.key op)) := by
  obtain ⟨l, hl⟩ := h (L.key op)
  rw [ofKey_cons_self] at hl
  exact hl.1

/-- After an operation was performed, the others lead on from the new values. -/
theorem Log.Ready.perform {view : κ → Option ν} {op : ω} {ops : List ω}
    (h : L.Ready view (op :: ops)) :
    L.Ready (Function.update view (L.key op) (L.effect op (view (L.key op)))) ops := by
  intro k
  obtain ⟨l, hl⟩ := h k
  by_cases hk : L.key op = k
  · subst hk
    rw [ofKey_cons_self] at hl
    rw [Function.update_self]
    exact ⟨l, hl.2⟩
  · rw [ofKey_cons_of_ne hk] at hl
    rw [Function.update_of_ne (Ne.symm hk)]
    exact ⟨l, hl⟩

/-- An operation that was refused stands in nobody's way when its key has no other. -/
theorem Log.Ready.refuse {view : κ → Option ν} {op : ω} {ops : List ω}
    (h : L.Ready view (op :: ops)) (hlast : ∀ op' ∈ ops, L.key op' ≠ L.key op) :
    L.Ready view ops := by
  intro k
  by_cases hk : L.key op = k
  · subst hk
    rw [ofKey_eq_nil hlast]
    exact ⟨_, rfl⟩
  · obtain ⟨l, hl⟩ := h k
    rw [ofKey_cons_of_ne hk] at hl
    exact ⟨l, hl⟩

theorem Log.Leads.perform {view : κ → Option ν} {op : ω} {ops : List ω} {rest : κ → List ω}
    {goal : κ → Option ν} (h : L.Leads view (op :: ops) rest goal) :
    L.Leads (Function.update view (L.key op) (L.effect op (view (L.key op)))) ops rest goal := by
  intro k
  have hl := h k
  by_cases hk : L.key op = k
  · subst hk
    rw [ofKey_cons_self, List.cons_append] at hl
    rw [Function.update_self]
    exact hl.2
  · rw [ofKey_cons_of_ne hk] at hl
    rw [Function.update_of_ne (Ne.symm hk)]
    exact hl

end Pending
