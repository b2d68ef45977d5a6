import TokyoTester.Library.Program
import TokyoTester.Library.Trace

set_option autoImplicit false

/-! # Pools of threads

Any number of threads, each running a program of a given family, make their calls on a shared
state in any order; between the calls the environment takes steps of its own. `Pool.guarded_inv`
carries an invariant of the shared state through such a run: it is enough that every call the
programs may make keeps it, and every step of the environment. -/

/-- The shared state, and what each thread still has to do. -/
structure Pool (Op : Type) (Reply : Op → Type) (σ α : Type) where
  shared : σ
  threads : List (Program Op Reply α) := []

namespace Pool

variable {Op : Type} {Reply : Op → Type} {σ ε α ι κ : Type}

/-- What happens next. -/
inductive Label (ι ε κ : Type) where
  /-- A thread starts with a program of the family. -/
  | spawn (task : ι)
  /-- The next call of a thread. -/
  | call (thread : Nat) (answer : ε)
  /-- A step of the environment. -/
  | environment (event : κ)

section Steps

variable (handle : (op : Op) → ε → σ → Reply op × σ) (program : ι → Program Op Reply α)
  (environment : κ → σ → σ)

/-- One step of a pool, when it can happen. -/
def step (s : Pool Op Reply σ α) : Label ι ε κ → Option (Pool Op Reply σ α)
  | .spawn task => some { s with threads := s.threads ++ [program task] }
  | .call i answer =>
    match s.threads[i]? with
    | none => none
    | some p =>
      (p.advance handle answer s.shared).map fun r => ⟨r.2, s.threads.set i r.1⟩
  | .environment event => some { s with shared := environment event s.shared }

/-- The steps that meet a condition on calls and on the environment. -/
def guard (onCall : σ → Op → ε → Prop) (onEvent : σ → κ → Prop) (s : Pool Op Reply σ α) :
    Label ι ε κ → Prop
  | .spawn _ => True
  | .call i answer => ∀ op ∈ (s.threads[i]?).bind Program.next?, onCall s.shared op answer
  | .environment event => onEvent s.shared event

instance (onCall : σ → Op → ε → Prop) (onEvent : σ → κ → Prop)
    [∀ s op e, Decidable (onCall s op e)] [∀ s k, Decidable (onEvent s k)]
    (s : Pool Op Reply σ α) (l : Label ι ε κ) : Decidable (guard onCall onEvent s l) :=
  match l with
  | .spawn _ => .isTrue trivial
  | .call i answer =>
    inferInstanceAs (Decidable (∀ op ∈ (s.threads[i]?).bind Program.next?,
      onCall s.shared op answer))
  | .environment event => inferInstanceAs (Decidable (onEvent s.shared event))

variable {handle program environment}

/-- A call of a thread is one that its program may make, and the others stay as they are. -/
theorem call_eq {s s' : Pool Op Reply σ α} {i : Nat} {answer : ε}
    (h : step handle program environment s (.call i answer : Label ι ε κ) = some s') :
    ∃ op next, s.threads[i]? = some (.call op next) ∧
      s' = ⟨(handle op answer s.shared).2,
        s.threads.set i (next (handle op answer s.shared).1)⟩ := by
  unfold step at h
  dsimp only at h
  cases hp : s.threads[i]? with
  | none =>
      rw [hp] at h
      cases h
  | some p =>
      rw [hp] at h
      cases p with
      | done a => cases h
      | call op next => exact ⟨op, next, rfl, (Option.some.inj h).symm⟩

/-- What a run of a pool keeps: an invariant of the shared state, and the bounds on its threads. -/
structure Invariant (inv : σ → Prop) (allowed : Op → Prop) (s : Pool Op Reply σ α) : Prop where
  shared : inv s.shared
  threads : ∀ p ∈ s.threads, p.Uses allowed

/-- **Invariant rule for pools.** -/
theorem guarded_inv {onCall : σ → Op → ε → Prop} {onEvent : σ → κ → Prop} {inv : σ → Prop}
    {allowed : Op → Prop} {s s' : Pool Op Reply σ α} {labels : List (Label ι ε κ)}
    (h : Trace.Guarded (fun s l s' => step handle program environment s l = some s')
      (guard onCall onEvent) s labels s')
    (huses : ∀ task, (program task).Uses allowed)
    (hcall : ∀ {σ₀ op answer}, allowed op → onCall σ₀ op answer → inv σ₀ →
      inv (handle op answer σ₀).2)
    (hevent : ∀ {σ₀ event}, onEvent σ₀ event → inv σ₀ → inv (environment event σ₀))
    (start : Invariant inv allowed s) : Invariant inv allowed s' := by
  refine h.invariant (Invariant inv allowed) ?_ start
  intro s label s' hguard hstep hs
  cases label with
  | spawn task =>
      obtain rfl := Option.some.inj hstep
      refine ⟨hs.shared, ?_⟩
      intro p hp
      rcases List.mem_append.1 hp with hp | hp
      · exact hs.threads p hp
      · rw [List.mem_singleton.1 hp]
        exact huses task
  | call i answer =>
      obtain ⟨op, next, hi, rfl⟩ := call_eq hstep
      have hp := hs.threads _ (List.mem_of_getElem? hi)
      have hop : op ∈ (s.threads[i]?).bind Program.next? := by
        rw [hi]
        rfl
      refine ⟨hcall hp.1 (hguard op hop) hs.shared, ?_⟩
      intro q hq
      rcases List.mem_or_eq_of_mem_set hq with hq | rfl
      · exact hs.threads q hq
      · exact hp.2 _
  | environment event =>
      obtain rfl := Option.some.inj hstep
      exact ⟨hevent hguard hs.shared, hs.threads⟩

end Steps

end Pool
