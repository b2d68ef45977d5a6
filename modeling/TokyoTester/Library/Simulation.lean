import Mathlib.Tactic

set_option autoImplicit false

/-! # Machines that answer

A machine takes an input, answers it and goes on in another state. Two machines whose states are
related, and which from related states answer alike and go on in related states, give the same
answers to every list of inputs. -/

namespace Simulation

variable {σ τ ι ο : Type}

/-- The answers to a list of inputs, and the state after them. -/
def answers (step : ι → σ → ο × σ) : List ι → σ → List ο × σ
  | [], s => ([], s)
  | i :: is, s =>
    let first := step i s
    let rest := answers step is first.2
    (first.1 :: rest.1, rest.2)

/-- One machine simulates another one along a relation of their states. -/
def Simulates (step : ι → σ → ο × σ) (spec : ι → τ → ο × τ) (rel : σ → τ → Prop) : Prop :=
  ∀ i s t, rel s t → (step i s).1 = (spec i t).1 ∧ rel (step i s).2 (spec i t).2

/-- **Related machines answer alike.** -/
theorem Simulates.answers {step : ι → σ → ο × σ} {spec : ι → τ → ο × τ} {rel : σ → τ → Prop}
    (h : Simulates step spec rel) (is : List ι) :
    ∀ {s : σ} {t : τ}, rel s t →
      (answers step is s).1 = (answers spec is t).1 ∧
        rel (answers step is s).2 (answers spec is t).2 := by
  induction is with
  | nil =>
      intro s t hrel
      exact ⟨rfl, hrel⟩
  | cons i is ih =>
      intro s t hrel
      obtain ⟨hanswer, hnext⟩ := h i s t hrel
      obtain ⟨hrest, hend⟩ := ih hnext
      exact ⟨congrArg₂ List.cons hanswer hrest, hend⟩

end Simulation
