import TokyoTester.Library.Parallel

set_option autoImplicit false

/-! # Critical sections

Threads in parallel that take turns by locks. A thread holds at most one lock at a time, and releases
it before it takes another one or ends (`Program.Sectioned`); a lock is taken when nobody holds it.
In every run the table of the locks then says which thread is in which section (`Turns.steps`), so
that a lock has one holder at most, and as long as some thread is not done there is one that can go
on (`Turns.exists_open`). -/

/-- What a call does to the locks. -/
inductive LockUse (κ : Type) where
  | acquire (lock : κ)
  | release (lock : κ)
  | other

section Sections

variable {Op : Type} {Reply : Op → Type} {σ ε ι κ α β : Type} {use : Op → LockUse κ}

namespace Program

/-- The thread is in the section of a lock, or in none, and leaves every section before it enters
    another one or ends. -/
def Sectioned (use : Op → LockUse κ) : Option κ → Program Op Reply α → Prop
  | held, .done _ => held = none
  | held, .call op next =>
    match use op with
    | .acquire lock => held = none ∧ ∀ r, (next r).Sectioned use (some lock)
    | .release lock => held = some lock ∧ ∀ r, (next r).Sectioned use none
    | .other => ∀ r, (next r).Sectioned use held

variable {held : Option κ} {lock : κ} {op : Op} {f : Reply op → Program Op Reply β}

theorem sectioned_acquire (h : use op = .acquire lock)
    (hf : ∀ r, (f r).Sectioned use (some lock)) : (perform op >>= f).Sectioned use none := by
  show Sectioned use none (.call op f)
  unfold Sectioned
  rw [h]
  exact ⟨rfl, hf⟩

theorem sectioned_release (h : use op = .release lock) (hf : ∀ r, (f r).Sectioned use none) :
    (perform op >>= f).Sectioned use (some lock) := by
  show Sectioned use (some lock) (.call op f)
  unfold Sectioned
  rw [h]
  exact ⟨rfl, hf⟩

theorem sectioned_other (h : use op = .other) (hf : ∀ r, (f r).Sectioned use held) :
    (perform op >>= f).Sectioned use held := by
  show Sectioned use held (.call op f)
  unfold Sectioned
  rw [h]
  exact hf

end Program

namespace Parallel

/-- The table of the locks: what the calls of each thread do to it. -/
structure LockTable (handle : (op : Op) → ε → σ → Reply op × σ) (use : Op → LockUse κ)
    (mine : ℕ → Op → Prop) (holder : σ → κ → Option ℕ) : Prop where
  acquire : ∀ {i op lock} e s, mine i op → use op = .acquire lock → ∀ k,
    holder (handle op e s).2 k = some i ∧ k = lock ∨ holder (handle op e s).2 k = holder s k ∧ k ≠ lock
  release : ∀ {i op lock} e s, mine i op → use op = .release lock → ∀ k,
    holder (handle op e s).2 k = none ∧ k = lock ∨ holder (handle op e s).2 k = holder s k ∧ k ≠ lock
  other : ∀ {i op} e s, mine i op → use op = .other → ∀ k,
    holder (handle op e s).2 k = holder s k

/-- A lock is taken when nobody holds it. -/
def Free (use : Op → LockUse κ) (holder : σ → κ → Option ℕ) (op : Op) (_ : ε) (s : σ) : Prop :=
  ∀ lock, use op = .acquire lock → holder s lock = none

instance (use : Op → LockUse κ) (holder : σ → κ → Option ℕ) (op : Op) (e : ε) (s : σ) :
    Decidable (Free use holder op e s) :=
  match h : use op with
  | .acquire lock =>
    decidable_of_iff (holder s lock = none)
      ⟨fun hnone _ h' => LockUse.acquire.inj (h.symm.trans h') ▸ hnone, fun hfree => hfree lock h⟩
  | .release _ => isTrue fun _ h' => nomatch h.symm.trans h'
  | .other => isTrue fun _ h' => nomatch h.symm.trans h'

/-- Each thread makes calls of its own, and is in the section of the lock that it holds. -/
structure Turns (use : Op → LockUse κ) (mine : ℕ → Op → Prop) (holder : σ → κ → Option ℕ)
    (s : Parallel Op Reply σ ι α) : Prop where
  mine : ∀ (i : ℕ) t, s.threads[i]? = some t → t.2.Uses (mine i)
  sectioned : ∀ (i : ℕ) t, s.threads[i]? = some t → ∃ held : Option κ, t.2.Sectioned use held ∧
    ∀ lock, holder s.shared lock = some i ↔ held = some lock
  started : ∀ lock i, holder s.shared lock = some i → i < s.threads.length

section Run

variable {η : Type} {handle : (op : Op) → ε → σ → Reply op × σ}
  {program : ℕ → ι → Program Op Reply α} {environment : η → σ → σ} {mine : ℕ → Op → Prop}
  {holder : σ → κ → Option ℕ} {s s' : Parallel Op Reply σ ι α}

/-- A thread is started. -/
theorem Turns.start (h : Turns use mine holder s) {task : ι} {p : Program Op Reply α}
    (hmine : p.Uses (mine s.threads.length)) (hsectioned : p.Sectioned use none) :
    Turns use mine holder { s with threads := s.threads ++ [(task, p)] } := by
  refine ⟨fun i t ht => ?_, fun i t ht => ?_, fun lock i hi => ?_⟩
  · rcases getElem?_snoc ht with ht | ⟨rfl, rfl⟩
    · exact h.mine i t ht
    · exact hmine
  · rcases getElem?_snoc ht with ht | ⟨rfl, rfl⟩
    · exact h.sectioned i t ht
    · refine ⟨none, hsectioned, fun lock => iff_of_false (fun hlock => ?_) (by simp)⟩
      exact absurd (h.started lock _ hlock) (lt_irrefl _)
  · rw [List.length_append]
    exact Nat.lt_add_right 1 (h.started lock i hi)

/-- What the call of a thread does to its own section, and to the table. -/
theorem Turns.section_next (h : Turns use mine holder s)
    (htable : LockTable handle use mine holder) {i : ℕ} {task : ι} {op : Op}
    {next : Reply op → Program Op Reply α} (hi : s.threads[i]? = some (task, .call op next)) {e : ε}
    (hfree : Free use holder op e s.shared) (r : Reply op) :
    ∃ held : Option κ, (next r).Sectioned use held ∧
      (∀ lock, holder (handle op e s.shared).2 lock = some i ↔ held = some lock) ∧
      ∀ lock j, j ≠ i → (holder (handle op e s.shared).2 lock = some j ↔
        holder s.shared lock = some j) := by
  obtain ⟨held, hsectioned, hheld⟩ := h.sectioned i _ hi
  have hmine : mine i op := (h.mine i _ hi).1
  unfold Program.Sectioned at hsectioned
  cases huse : use op with
  | other =>
      rw [huse] at hsectioned
      have hsame := htable.other e s.shared hmine huse
      exact ⟨held, hsectioned r, fun lock => by rw [hsame, hheld], fun lock j _ => by rw [hsame]⟩
  -- the guard says that the lock is free, so nobody else holds it afterwards
  | acquire lock =>
      rw [huse] at hsectioned
      obtain ⟨rfl, hsectioned⟩ := hsectioned
      have hnone := hfree lock huse
      refine ⟨some lock, hsectioned r, fun k => ?_, fun k j hj => ?_⟩
      · rcases htable.acquire e s.shared hmine huse k with ⟨hk, rfl⟩ | ⟨hk, hne⟩
        · simp [hk]
        · rw [hk, hheld]
          simp [Ne.symm hne]
      · rcases htable.acquire e s.shared hmine huse k with ⟨hk, rfl⟩ | ⟨hk, -⟩
        · simp [hk, hnone, Ne.symm hj]
        · rw [hk]
  -- this thread held it, so no other loses anything
  | release lock =>
      rw [huse] at hsectioned
      obtain ⟨rfl, hsectioned⟩ := hsectioned
      refine ⟨none, hsectioned r, fun k => ?_, fun k j hj => ?_⟩
      · rcases htable.release e s.shared hmine huse k with ⟨hk, rfl⟩ | ⟨hk, hne⟩
        · simp [hk]
        · rw [hk, hheld]
          simp [Ne.symm hne]
      · rcases htable.release e s.shared hmine huse k with ⟨hk, rfl⟩ | ⟨hk, -⟩
        · have hlock := (hheld k).2 rfl
          simp [hk, hlock, Ne.symm hj]
        · rw [hk]

/-- The call of a thread is answered. -/
theorem Turns.call (h : Turns use mine holder s) (htable : LockTable handle use mine holder)
    {i : ℕ} {answer : ε} (hok : guard (Free use holder) s (.call i answer : Label ι ε η))
    (hstep : step handle program environment s (.call i answer : Label ι ε η) = some s') :
    Turns use mine holder s' := by
  obtain ⟨task, p, p', shared, hi, hadvance, rfl⟩ := call_eq hstep
  have hlt := (List.getElem?_eq_some_iff.1 hi).1
  cases p with
  | done a => cases hadvance
  | call op next =>
      obtain ⟨rfl, rfl⟩ := Prod.mk.inj (Option.some.inj hadvance)
      have hfree : Free use holder op answer s.shared := hok (op, answer) (by simp [answered, hi,
        Program.next?])
      obtain ⟨held, hsectioned, hheld, hothers⟩ := h.section_next htable hi hfree
        (handle op answer s.shared).1
      refine ⟨fun j t ht => ?_, fun j t ht => ?_, fun lock j hj => ?_⟩
      · by_cases hij : i = j
        · subst hij
          rw [List.getElem?_set_self hlt] at ht
          obtain rfl := Option.some.inj ht
          exact (h.mine i _ hi).2 _
        · rw [List.getElem?_set_ne hij] at ht
          exact h.mine j t ht
      · by_cases hij : i = j
        · subst hij
          rw [List.getElem?_set_self hlt] at ht
          obtain rfl := Option.some.inj ht
          exact ⟨held, hsectioned, hheld⟩
        · rw [List.getElem?_set_ne hij] at ht
          obtain ⟨held, hsectioned, hheld⟩ := h.sectioned j t ht
          exact ⟨held, hsectioned, fun lock => (hothers lock j (Ne.symm hij)).trans (hheld lock)⟩
      · rw [List.length_set]
        by_cases hij : j = i
        · exact hij ▸ hlt
        · exact h.started lock j ((hothers lock j hij).1 hj)

/-- **Every run keeps the turns.** -/
theorem Turns.steps {onCall : Op → ε → σ → Prop} {labels : List (Label ι ε η)}
    (h : Trace.Guarded (fun s l s' => step handle program environment s l = some s')
      (guard onCall) s labels s')
    (htable : LockTable handle use mine holder)
    (hfree : ∀ {op e s}, onCall op e s → Free use holder op e s)
    (henvironment : ∀ event s lock, holder (environment event s) lock = holder s lock)
    (hmine : ∀ i task, (program i task).Uses (mine i))
    (hsectioned : ∀ i task, (program i task).Sectioned use none) (hs : Turns use mine holder s) :
    Turns use mine holder s' := by
  refine h.invariant (Turns use mine holder) ?_ hs
  intro s label s' hok hstep hs
  cases label with
  | start task =>
      obtain rfl := Option.some.inj hstep
      exact hs.start (hmine _ task) (hsectioned _ task)
  | call i answer => exact hs.call htable (fun c hc => hfree (hok c hc)) hstep
  | environment event =>
      obtain rfl := Option.some.inj hstep
      refine ⟨hs.mine, fun i t ht => ?_, fun lock i hi => hs.started lock i ?_⟩
      · obtain ⟨held, hheld, htable⟩ := hs.sectioned i t ht
        exact ⟨held, hheld, fun lock => by rw [henvironment, htable]⟩
      · rwa [henvironment] at hi

/-- **No deadlock**: as long as a thread is not done, some thread has a call that waits for nothing. -/
theorem Turns.exists_open (h : Turns use mine holder s) {i : ℕ} {t : ι × Program Op Reply α}
    (hi : s.threads[i]? = some t) (hopen : t.2.result? = none) :
    ∃ (j : ℕ) (task : ι) (op : Op) (next : Reply op → Program Op Reply α),
      s.threads[j]? = some (task, .call op next) ∧
        ∀ lock, use op = .acquire lock → holder s.shared lock = none := by
  obtain ⟨task, p⟩ := t
  cases p with
  | done a => cases hopen
  | call op next =>
      by_cases hwaits : ∀ lock, use op = .acquire lock → holder s.shared lock = none
      · exact ⟨i, task, op, next, hi, hwaits⟩
      · -- the holder of the lock is in its section, and takes no other one
        simp only [not_forall] at hwaits
        obtain ⟨lock, -, hlock⟩ := hwaits
        obtain ⟨j, hj⟩ := Option.ne_none_iff_exists'.1 hlock
        have hlt := h.started lock j hj
        have hthread : s.threads[j]? = some s.threads[j] := List.getElem?_eq_getElem hlt
        obtain ⟨held, hsectioned, hheld⟩ := h.sectioned j _ hthread
        obtain rfl := (hheld lock).1 hj
        generalize s.threads[j] = t at hthread hsectioned
        obtain ⟨task', p'⟩ := t
        cases p' with
        | done a => cases hsectioned
        | call op' next' =>
            refine ⟨j, task', op', next', hthread, fun lock' huse => ?_⟩
            unfold Program.Sectioned at hsectioned
            rw [huse] at hsectioned
            cases hsectioned.1

/-- No deadlock, as a step: some thread's next call is answered, whatever the answer. -/
theorem Turns.exists_step (h : Turns use mine holder s) {i : ℕ} {t : ι × Program Op Reply α}
    (hi : s.threads[i]? = some t) (hopen : t.2.result? = none) :
    ∃ j : ℕ, ∀ e, guard (Free use holder) s (.call j e : Label ι ε η) ∧
      (step handle program environment s (.call j e : Label ι ε η)).isSome := by
  obtain ⟨j, task, op, next, hj, hwaits⟩ := h.exists_open hi hopen
  refine ⟨j, fun e => ⟨?_, ?_⟩⟩
  · rintro ⟨op', e'⟩ hanswered
    simp only [answered, hj, Program.next?, Option.bind_some, Option.map_some, Option.mem_def,
      Option.some.injEq, Prod.mk.injEq] at hanswered
    obtain ⟨rfl, rfl⟩ := hanswered
    exact hwaits
  · unfold step
    simp only [hj]
    rfl

end Run

end Parallel

end Sections
