import TokyoTester.Library.Program
import TokyoTester.Library.Trace

set_option autoImplicit false

/-! # Threads in parallel

`Setting.Safe` judges a thread alone, against what the others may do. Here the threads run together
on one shared state, each known by its position, and the environment takes steps of its own. When
what one thread promises is what every other relies on, each thread keeps its judgement in every
run (`Parallel.guarded_safe`). -/

/-- The shared state, and each thread with the task it was started for. -/
structure Parallel (Op : Type) (Reply : Op → Type) (σ ι α : Type) where
  shared : σ
  threads : List (ι × Program Op Reply α) := []

namespace Parallel

variable {Op : Type} {Reply : Op → Type} {σ ε ι κ α : Type}

/-- What happens next. -/
inductive Label (ι ε κ : Type) where
  /-- A thread is started for a task. -/
  | start (task : ι)
  /-- The next call of a thread is answered. -/
  | call (thread : Nat) (answer : ε)
  /-- A step of the environment. -/
  | environment (event : κ)

section Steps

variable (handle : (op : Op) → ε → σ → Reply op × σ) (program : Nat → ι → Program Op Reply α)
  (environment : κ → σ → σ)

/-- One step, when it can happen. -/
def step (s : Parallel Op Reply σ ι α) : Label ι ε κ → Option (Parallel Op Reply σ ι α)
  | .start task =>
    some { s with threads := s.threads ++ [(task, program s.threads.length task)] }
  | .call i answer =>
    match s.threads[i]? with
    | none => none
    | some t =>
      (t.2.advance handle answer s.shared).map fun r => ⟨r.2, s.threads.set i (t.1, r.1)⟩
  | .environment event => some { s with shared := environment event s.shared }

/-- The call that a label answers. -/
def answered (s : Parallel Op Reply σ ι α) : Label ι ε κ → Option (Op × ε)
  | .call i answer => ((s.threads[i]?).bind fun t => t.2.next?).map (·, answer)
  | _ => none

/-- Calls are answered as the condition says. -/
def guard (onCall : Op → ε → σ → Prop) (s : Parallel Op Reply σ ι α) (label : Label ι ε κ) : Prop :=
  ∀ c ∈ answered s label, onCall c.1 c.2 s.shared

instance (onCall : Op → ε → σ → Prop) [∀ op e s, Decidable (onCall op e s)]
    (s : Parallel Op Reply σ ι α) (label : Label ι ε κ) : Decidable (guard onCall s label) :=
  inferInstanceAs (Decidable (∀ c ∈ answered s label, onCall c.1 c.2 s.shared))

variable {handle program environment}

/-- An entry of a list with one more element. -/
theorem getElem?_snoc {β : Type} {l : List β} {b c : β} {i : Nat}
    (h : (l ++ [b])[i]? = some c) : l[i]? = some c ∨ i = l.length ∧ c = b := by
  rcases Nat.lt_trichotomy i l.length with hi | rfl | hi
  · rw [List.getElem?_append_left hi] at h
    exact .inl h
  · rw [List.getElem?_append_right (Nat.le_refl _), Nat.sub_self] at h
    exact .inr ⟨rfl, (Option.some.inj h).symm⟩
  · rw [List.getElem?_eq_none (by simpa using hi)] at h
    cases h

/-- A call is the next one of a thread, and the other threads stay as they are. -/
theorem call_eq {s s' : Parallel Op Reply σ ι α} {i : Nat} {answer : ε}
    (h : step handle program environment s (.call i answer : Label ι ε κ) = some s') :
    ∃ task p p' shared, s.threads[i]? = some (task, p) ∧
      p.advance handle answer s.shared = some (p', shared) ∧
      s' = ⟨shared, s.threads.set i (task, p')⟩ := by
  unfold step at h
  dsimp only at h
  cases ht : s.threads[i]? with
  | none =>
      rw [ht] at h
      cases h
  | some t =>
      rw [ht] at h
      obtain ⟨r, hr, rfl⟩ := Option.map_eq_some_iff.1 h
      exact ⟨t.1, t.2, r.1, r.2, rfl, hr, rfl⟩

/-- Every thread keeps its judgement. -/
def AllSafe (S : Nat → Setting Op Reply σ ε) (post : ι → α → σ → Prop)
    (s : Parallel Op Reply σ ι α) : Prop :=
  ∀ i t, s.threads[i]? = some t → (S i).Safe (post t.1) t.2 s.shared

variable {S : Nat → Setting Op Reply σ ε} {post : ι → α → σ → Prop} {onCall : Op → ε → σ → Prop}
  {inv : Nat → σ → Prop} {s s' : Parallel Op Reply σ ι α}

/-- The call of a thread: it keeps its promise, on which the other threads rely. -/
theorem AllSafe.call {i : Nat} {answer : ε} (h : AllSafe S post s)
    (hhandle : ∀ i, (S i).handle = handle) (hguard : ∀ i, (S i).guard = onCall)
    (hcompatible : ∀ {i j σ₁ σ₂}, i ≠ j → (S i).guar σ₁ σ₂ → (S j).rely σ₁ σ₂)
    (hok : guard onCall s (.call i answer : Label ι ε κ))
    (hstep : step handle program environment s (.call i answer : Label ι ε κ) = some s') :
    (S i).guar s.shared s'.shared ∧ AllSafe S post s' := by
  obtain ⟨task, p, p', shared, hi, hadvance, rfl⟩ := call_eq hstep
  have hnext : ∀ op, p.next? = some op → (S i).guard op answer s.shared := by
    intro op hop
    rw [hguard]
    refine hok (op, answer) ?_
    simp only [answered, hi, Option.bind_some, hop, Option.map_some, Option.mem_def]
  obtain ⟨hguar, hsafe⟩ := (h i _ hi).advance hnext ((hhandle i).symm ▸ hadvance)
  refine ⟨hguar, ?_⟩
  intro j t ht
  by_cases hij : i = j
  · subst hij
    rw [List.getElem?_set_self (List.getElem?_eq_some_iff.1 hi).1] at ht
    obtain rfl := Option.some.inj ht
    exact hsafe
  · rw [List.getElem?_set_ne hij] at ht
    exact (h j t ht).rely (hcompatible hij hguar)

variable (S post inv) in
/-- **The rule of parallel composition.** The invariant of the shared state may depend on the
    number of threads started, so that a new thread finds nothing of its own there. -/
theorem guarded_safe {labels : List (Label ι ε κ)}
    (h : Trace.Guarded (fun s l s' => step handle program environment s l = some s')
      (guard onCall) s labels s')
    (hhandle : ∀ i, (S i).handle = handle) (hguard : ∀ i, (S i).guard = onCall)
    (hcompatible : ∀ {i j σ₁ σ₂}, i ≠ j → (S i).guar σ₁ σ₂ → (S j).rely σ₁ σ₂)
    (henvironment : ∀ i event σ₁, (S i).rely σ₁ (environment event σ₁))
    (hinvStart : ∀ {n σ₁}, inv n σ₁ → inv (n + 1) σ₁)
    (hinvCall : ∀ {i n σ₁ σ₂}, i < n → (S i).guar σ₁ σ₂ → inv n σ₁ → inv n σ₂)
    (hinvEnvironment : ∀ {n event σ₁}, inv n σ₁ → inv n (environment event σ₁))
    (hprogram : ∀ {i σ₁} task, inv i σ₁ → (S i).Safe (post task) (program i task) σ₁)
    (hinv : inv s.threads.length s.shared) (hsafe : AllSafe S post s) :
    inv s'.threads.length s'.shared ∧ AllSafe S post s' := by
  refine h.invariant (fun s => inv s.threads.length s.shared ∧ AllSafe S post s) ?_ ⟨hinv, hsafe⟩
  rintro s label s' hok hstep ⟨hinv, hsafe⟩
  cases label with
  | start task =>
      obtain rfl := Option.some.inj hstep
      refine ⟨by simpa using hinvStart hinv, ?_⟩
      intro i t ht
      rcases getElem?_snoc ht with ht | ⟨rfl, rfl⟩
      · exact hsafe i t ht
      · exact hprogram task hinv
  | call i answer =>
      obtain ⟨task, p, p', shared, hi, -, hs'⟩ := call_eq hstep
      obtain ⟨hguar, hsafe⟩ := hsafe.call hhandle hguard hcompatible hok hstep
      have hlength : s'.threads.length = s.threads.length := by
        rw [hs', List.length_set]
      rw [hlength]
      exact ⟨hinvCall (List.getElem?_eq_some_iff.1 hi).1 hguar hinv, hsafe⟩
  | environment event =>
      obtain rfl := Option.some.inj hstep
      exact ⟨hinvEnvironment hinv, fun i t ht => (hsafe i t ht).rely (henvironment i event _)⟩

/-! ## Judgements that name their thread -/

/-- Every thread keeps its judgement, and its result may depend on its position. -/
def EachSafe (S : Nat → Setting Op Reply σ ε) (result : Nat → ι → α → σ → Prop)
    (s : Parallel Op Reply σ ι α) : Prop :=
  ∀ i t, s.threads[i]? = some t → (S i).Safe (result i t.1) t.2 s.shared

variable {result : Nat → ι → α → σ → Prop}

variable (S result) in
/-- The rule of parallel composition when each thread is judged by its position. -/
theorem guarded_each {labels : List (Label ι ε κ)}
    (h : Trace.Guarded (fun s l s' => step handle program environment s l = some s')
      (guard onCall) s labels s')
    (hhandle : ∀ i, (S i).handle = handle) (hguard : ∀ i, (S i).guard = onCall)
    (hcompatible : ∀ {i j σ₁ σ₂}, i ≠ j → (S i).guar σ₁ σ₂ → (S j).rely σ₁ σ₂)
    (henvironment : ∀ i event σ₁, (S i).rely σ₁ (environment event σ₁)) (keep : σ → Prop)
    (hkeepCall : ∀ {i σ₁ σ₂}, (S i).guar σ₁ σ₂ → keep σ₁ → keep σ₂)
    (hkeepEnvironment : ∀ {event σ₁}, keep σ₁ → keep (environment event σ₁))
    (hprogram : ∀ i task {σ₁}, keep σ₁ → (S i).Safe (result i task) (program i task) σ₁)
    (hkeep : keep s.shared) (hsafe : EachSafe S result s) :
    keep s'.shared ∧ EachSafe S result s' := by
  refine h.invariant (fun s => keep s.shared ∧ EachSafe S result s) ?_ ⟨hkeep, hsafe⟩
  rintro s label s' hok hstep ⟨hkeep, hsafe⟩
  cases label with
  | start task =>
      obtain rfl := Option.some.inj hstep
      refine ⟨hkeep, fun i t ht => ?_⟩
      rcases getElem?_snoc ht with ht | ⟨rfl, rfl⟩
      · exact hsafe i t ht
      · exact hprogram _ task hkeep
  | call i answer =>
      obtain ⟨task, p, p', shared, hi, hadvance, rfl⟩ := call_eq hstep
      have hnext : ∀ op, p.next? = some op → (S i).guard op answer s.shared := by
        intro op hop
        rw [hguard]
        exact hok (op, answer) (by simp [answered, hi, hop])
      obtain ⟨hguar, hnext⟩ := (hsafe i _ hi).advance hnext ((hhandle i).symm ▸ hadvance)
      refine ⟨hkeepCall hguar hkeep, fun j t ht => ?_⟩
      by_cases hij : i = j
      · subst hij
        rw [List.getElem?_set_self (List.getElem?_eq_some_iff.1 hi).1] at ht
        obtain rfl := Option.some.inj ht
        exact hnext
      · rw [List.getElem?_set_ne hij] at ht
        exact (hsafe j t ht).rely (hcompatible hij hguar)
  | environment event =>
      obtain rfl := Option.some.inj hstep
      exact ⟨hkeepEnvironment hkeep, fun i t ht => (hsafe i t ht).rely (henvironment i event _)⟩

/-! ## One thread after the other -/

/-- A thread runs to its end while the others wait. -/
inductive Alone (handle : (op : Op) → ε → σ → Reply op × σ) (onCall : Op → ε → σ → Prop) :
    List ε → σ → Program Op Reply α → α → σ → Prop where
  | done (a : α) (σ₁ : σ) : Alone handle onCall [] σ₁ (.done a) a σ₁
  | call {op : Op} {next : Reply op → Program Op Reply α} {e : ε} {es : List ε} {a : α} {σ₁ σ₂ : σ}
      (ok : onCall op e σ₁)
      (rest : Alone handle onCall es (handle op e σ₁).2 (next (handle op e σ₁).1) a σ₂) :
      Alone handle onCall (e :: es) σ₁ (.call op next) a σ₂

variable {a : α} {answers : List ε} {σ₁ σ₂ : σ}

theorem Alone.ask {β : Type} {op : Op} {f : Reply op → Program Op Reply β} {e : ε} {es : List ε}
    {r : Reply op} {b : β} {σ₃ : σ} (ok : onCall op e σ₁) (hhandle : handle op e σ₁ = (r, σ₂))
    (rest : Alone handle onCall es σ₂ (f r) b σ₃) :
    Alone handle onCall (e :: es) σ₁ (Program.perform op >>= f) b σ₃ := by
  have hcall : Alone handle onCall (e :: es) σ₁ (.call op f) b σ₃ :=
    .call ok (by rwa [hhandle])
  exact hcall

theorem Alone.bind {β : Type} {p : Program Op Reply α} {f : α → Program Op Reply β}
    {answers' : List ε} {b : β} {σ₃ : σ} (h : Alone handle onCall answers σ₁ p a σ₂)
    (hf : Alone handle onCall answers' σ₂ (f a) b σ₃) :
    Alone handle onCall (answers ++ answers') σ₁ (p >>= f) b σ₃ := by
  induction h with
  | done a σ₁ => exact hf
  | call ok rest ih => exact .call ok (ih hf)

/-- What the last thread does alone is a run. -/
theorem Alone.calls {p : Program Op Reply α} (h : Alone handle onCall answers σ₁ p a σ₂) (task : ι)
    (threads : List (ι × Program Op Reply α)) :
    Trace.Guarded (fun s l s' => step handle program environment s l = some s') (guard onCall)
      ⟨σ₁, threads ++ [(task, p)]⟩
      (answers.map fun e => (.call threads.length e : Label ι ε κ))
      ⟨σ₂, threads ++ [(task, .done a)]⟩ := by
  induction h with
  | done a σ₁ => exact .nil _
  | @call op next e es a σ₁ σ₂ ok rest ih =>
      have hthread : (threads ++ [(task, .call op next)])[threads.length]? =
          some (task, .call op next) := by simp
      refine .cons ?_ ?_ ih
      · intro c hc
        simp only [answered, hthread, Option.bind_some, Program.next?, Option.map_some,
          Option.mem_def, Option.some.injEq] at hc
        exact hc ▸ ok
      · simp [step, Program.advance]

/-- A thread that starts and runs to its end alone is a run. -/
theorem Alone.run {task : ι} (h : Alone handle onCall answers s.shared
      (program s.threads.length task) a σ₂) :
    Trace.Guarded (fun s l s' => step handle program environment s l = some s') (guard onCall) s
      (.start task :: answers.map fun e => (.call s.threads.length e : Label ι ε κ))
      ⟨σ₂, s.threads ++ [(task, .done a)]⟩ :=
  .cons (fun _ hc => by cases hc) rfl (h.calls task s.threads)

end Steps

end Parallel
