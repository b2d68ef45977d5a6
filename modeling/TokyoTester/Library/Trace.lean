import Mathlib.Logic.Relation
import Mathlib.Tactic

set_option autoImplicit false

/-! # Labelled transition systems and their runs

A system is a step relation over states, labelled with what happens. A run is a list of labels
taken one after the other. Three rules carry every result about runs:

* `Steps.invariant` — what holds at the start and is kept by every step holds at the end;
* `Guarded.invariant` — the same when only steps that meet a condition are taken;
* `Steps.stable` — once a state satisfies a property that steps keep (under an invariant), every
  later state does. -/

namespace Trace

variable {σ ι : Type}

/-- A run: the labels taken, from a start state to an end state. -/
inductive Steps (step : σ → ι → σ → Prop) : σ → List ι → σ → Prop where
  | nil (s : σ) : Steps step s [] s
  | cons {s s' s'' : σ} {a : ι} {as : List ι} (first : step s a s')
      (rest : Steps step s' as s'') : Steps step s (a :: as) s''

variable {step : σ → ι → σ → Prop} {s s' s'' : σ} {as bs : List ι}

/-- The states some run from `init` ends in. -/
def Reachable (step : σ → ι → σ → Prop) (init s : σ) : Prop := ∃ as, Steps step init as s

theorem Steps.append (h₁ : Steps step s as s') (h₂ : Steps step s' bs s'') :
    Steps step s (as ++ bs) s'' := by
  induction h₁ with
  | nil s => exact h₂
  | cons first _ ih => exact .cons first (ih h₂)

theorem Reachable.refl (step : σ → ι → σ → Prop) (s : σ) : Reachable step s s := ⟨[], .nil s⟩

theorem Reachable.steps (h : Reachable step s s') (hs : Steps step s' as s'') :
    Reachable step s s'' := by
  obtain ⟨bs, hbs⟩ := h
  exact ⟨bs ++ as, hbs.append hs⟩

/-- The steps of a function, each allowed, are a run. -/
theorem Steps.foldl {f : σ → ι → σ} {allowed : ι → Prop} (as : List ι) :
    ∀ s : σ, (∀ a ∈ as, allowed a) →
      Steps (fun s a s' => allowed a ∧ s' = f s a) s as (as.foldl f s) := by
  induction as with
  | nil =>
      intro s _
      exact .nil s
  | cons a as ih =>
      intro s h
      exact .cons ⟨h a (by simp), rfl⟩ (ih _ fun b hb => h b (by simp [hb]))

/-- A preorder holds between any two states of a run, the earlier one first, if and only if it holds
    before and after every step. -/
theorem foldl_pairs_iff {f : σ → ι → σ} {r : σ → σ → Prop} (hrefl : ∀ s, r s s)
    (htrans : ∀ {a b c}, r a b → r b c → r a c) (s : σ) (as : List ι) :
    (∀ i j, i ≤ j → r ((as.take i).foldl f s) ((as.take j).foldl f s)) ↔
      ∀ i (h : i < as.length),
        r ((as.take i).foldl f s) (f ((as.take i).foldl f s) as[i]) := by
  have hsucc : ∀ i (h : i < as.length),
      (as.take (i + 1)).foldl f s = f ((as.take i).foldl f s) as[i] := by
    intro i h
    rw [List.take_succ_eq_append_getElem h, List.foldl_append]
    rfl
  constructor
  · intro hall i h
    rw [← hsucc i h]
    exact hall i (i + 1) (Nat.le_succ i)
  · intro hstep i j hij
    induction j, hij using Nat.le_induction with
    | base => exact hrefl _
    | succ j _ ih =>
        refine htrans ih ?_
        by_cases h : j < as.length
        · rw [hsucc j h]
          exact hstep j h
        · -- the run is over
          have hle : as.length ≤ j := Nat.le_of_not_lt h
          rw [List.take_of_length_le hle, List.take_of_length_le (Nat.le_succ_of_le hle)]
          exact hrefl _

/-- **Invariant rule.** -/
theorem Steps.invariant (inv : σ → Prop) (h : Steps step s as s')
    (keep : ∀ {s a s'}, step s a s' → inv s → inv s') (start : inv s) : inv s' := by
  induction h with
  | nil s => exact start
  | cons first _ ih => exact ih (keep first start)

/-- **Guarded invariant rule**: every step of the run meets `guard` in the state it is taken
    in. -/
inductive Guarded (step : σ → ι → σ → Prop) (guard : σ → ι → Prop) : σ → List ι → σ → Prop where
  | nil (s : σ) : Guarded step guard s [] s
  | cons {s s' s'' : σ} {a : ι} {as : List ι} (ok : guard s a) (first : step s a s')
      (rest : Guarded step guard s' as s'') : Guarded step guard s (a :: as) s''

theorem Guarded.steps {guard : σ → ι → Prop} (h : Guarded step guard s as s') :
    Steps step s as s' := by
  induction h with
  | nil s => exact .nil s
  | cons _ first _ ih => exact .cons first ih

theorem Guarded.append {guard : σ → ι → Prop} (h₁ : Guarded step guard s as s')
    (h₂ : Guarded step guard s' bs s'') : Guarded step guard s (as ++ bs) s'' := by
  induction h₁ with
  | nil s => exact h₂
  | cons ok first _ ih => exact .cons ok first (ih h₂)

theorem Guarded.invariant {guard : σ → ι → Prop} (inv : σ → Prop)
    (h : Guarded step guard s as s')
    (keep : ∀ {s a s'}, guard s a → step s a s' → inv s → inv s') (start : inv s) : inv s' := by
  induction h with
  | nil s => exact start
  | cons ok first _ ih => exact ih (keep ok first start)

/-- What holds in every reachable state. -/
theorem Reachable.invariant (inv : σ → Prop) (h : Reachable step s s')
    (keep : ∀ {s a s'}, step s a s' → inv s → inv s') (start : inv s) : inv s' := by
  obtain ⟨as, has⟩ := h
  exact has.invariant inv keep start

/-- **Stability rule**: a property that steps keep, given the invariant, holds from then on. -/
theorem Steps.stable (inv good : σ → Prop) (h : Steps step s as s')
    (keep : ∀ {s a s'}, step s a s' → inv s → inv s')
    (keepGood : ∀ {s a s'}, step s a s' → inv s → good s → good s')
    (hinv : inv s) (hgood : good s) : good s' := by
  have : inv s' ∧ good s' :=
    h.invariant (fun s => inv s ∧ good s)
      (fun st hs => ⟨keep st hs.1, keepGood st hs.1 hs.2⟩) ⟨hinv, hgood⟩
  exact this.2

/-! ## Runs of a partial step function -/

section Partial

variable {f : σ → ι → Option σ} {guard : σ → ι → Prop}

/-- The state after a list of labels, when every step can be taken. -/
def run (f : σ → ι → Option σ) : σ → List ι → Option σ
  | s, [] => some s
  | s, a :: as => f s a >>= fun s' => run f s' as

theorem Steps.of_run : ∀ {as : List ι} {s : σ}, run f s as = some s' →
    Steps (fun s a s' => f s a = some s') s as s' := by
  intro as
  induction as with
  | nil =>
      intro s h
      obtain rfl := Option.some.inj h
      exact .nil s
  | cons a as ih =>
      intro s h
      obtain ⟨s₁, hfirst, hrest⟩ := Option.bind_eq_some_iff.1 h
      exact .cons hfirst (ih hrest)

theorem Steps.run_eq (h : Steps (fun s a s' => f s a = some s') s as s') :
    run f s as = some s' := by
  induction h with
  | nil s => rfl
  | cons first rest ih => exact Option.bind_eq_some_iff.2 ⟨_, first, ih⟩

/-- The steps that meet a condition. -/
def restrict (f : σ → ι → Option σ) (guard : σ → ι → Prop) [∀ s a, Decidable (guard s a)] (s : σ)
    (a : ι) : Option σ := if guard s a then f s a else none

theorem Guarded.of_run [∀ s a, Decidable (guard s a)] : ∀ {as : List ι} {s : σ},
    run (restrict f guard) s as = some s' →
      Guarded (fun s a s' => f s a = some s') guard s as s' := by
  intro as
  induction as with
  | nil =>
      intro s h
      obtain rfl := Option.some.inj h
      exact .nil s
  | cons a as ih =>
      intro s h
      obtain ⟨s₁, hfirst, hrest⟩ := Option.bind_eq_some_iff.1 h
      unfold restrict at hfirst
      split_ifs at hfirst with hguard
      exact .cons hguard hfirst (ih hrest)

/-- **Exact rule**: when a step keeps an invariant exactly if it meets a condition, the invariant
    holds in every state of a run if and only if every step meets the condition. -/
theorem Steps.invariant_iff (base inv : σ → Prop)
    (hbase : ∀ {s a s'}, f s a = some s' → base s → base s')
    (hkeep : ∀ {s a s'}, f s a = some s' → base s → inv s → (inv s' ↔ guard s a))
    (h : Steps (fun s a s' => f s a = some s') s as s') (hb : base s) (hi : inv s) :
    (∀ n s₁, run f s (as.take n) = some s₁ → inv s₁) ↔
      Guarded (fun s a s' => f s a = some s') guard s as s' := by
  induction h with
  | nil s =>
      refine iff_of_true (fun n s₁ hrun => ?_) (.nil s)
      rw [List.take_nil] at hrun
      exact Option.some.inj hrun ▸ hi
  | @cons s s₁ s' a as first rest ih =>
      have hnext : ∀ n, run f s ((a :: as).take (n + 1)) = run f s₁ (as.take n) := by
        intro n
        show (f s a >>= fun s₁ => run f s₁ (as.take n)) = run f s₁ (as.take n)
        rw [first]
        rfl
      constructor
      · intro hall
        have hfirst : inv s₁ := hall 1 s₁ (by rw [hnext]; rfl)
        refine .cons ((hkeep first hb hi).1 hfirst) first ((ih (hbase first hb) hfirst).1 ?_)
        intro n s₂ hrun
        exact hall (n + 1) s₂ (by rw [hnext]; exact hrun)
      · intro hguarded n s₂ hrun
        cases hguarded with
        | cons ok first' rest' =>
            obtain rfl := Option.some.inj (first.symm.trans first')
            have hfirst := (hkeep first hb hi).2 ok
            cases n with
            | zero => exact Option.some.inj hrun ▸ hi
            | succ n =>
                rw [hnext] at hrun
                exact (ih (hbase first hb) hfirst).2 rest' n s₂ hrun

end Partial

end Trace
