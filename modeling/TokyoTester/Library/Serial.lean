import TokyoTester.Library.Program

set_option autoImplicit false

/-! # Serial replay of threads

A thread is a task, the answers its calls got so far and what remains of its program. To replay a
thread is to run its program alone, in one piece, with the answers it got. Threads that interleave
are serialisable when the state is that of replaying the successful ones one after the other, in
some order. `Thread.replay_commit` is the step of such an argument: when the replies that a thread
got so far are the ones it would get now, its next call ends its replay like it ends the thread. -/

/-- A task under way. -/
structure Thread (ι ε Op : Type) (Reply : Op → Type) (α : Type) where
  task : ι
  answers : List ε := []
  program : Program Op Reply α

namespace Program

variable {Op : Type} {Reply : Op → Type} {α σ ε : Type}
  (handle : (op : Op) → ε → σ → Reply op × σ)

/-- The first calls of a program, one for each answer: what remains, and the state. -/
def follow : List ε → σ → Program Op Reply α → Option (Program Op Reply α × σ)
  | [], s, p => some (p, s)
  | e :: es, s, p => (p.advance handle e s).bind fun r => follow es r.2 r.1

variable {handle}

theorem follow_append (es es' : List ε) (s : σ) (p : Program Op Reply α) :
    follow handle (es ++ es') s p
      = (follow handle es s p).bind fun r => follow handle es' r.2 r.1 := by
  induction es generalizing s p with
  | nil => rfl
  | cons e es ih =>
      show (p.advance handle e s).bind (fun r => follow handle (es ++ es') r.2 r.1)
        = ((p.advance handle e s).bind fun r => follow handle es r.2 r.1).bind _
      rw [Option.bind_assoc]
      exact congrArg _ (funext fun r => ih r.2 r.1)

/-- A program that is followed to its end has been run. -/
theorem run_of_follow {es : List ε} {s s' : σ} {p : Program Op Reply α} {a : α}
    (h : follow handle es s p = some (done a, s')) : run handle es s p = some (a, s') := by
  induction es generalizing s p with
  | nil =>
      obtain ⟨rfl, rfl⟩ := Prod.mk.inj (Option.some.inj h)
      rfl
  | cons e es ih =>
      cases p with
      | done b => cases h
      | call op next => exact ih h

end Program

namespace Thread

variable {ι ε Op : Type} {Reply : Op → Type} {α σ : Type}
  (handle : (op : Op) → ε → σ → Reply op × σ) (program : ι → Program Op Reply α)

/-- Replaying the thread's calls in the state `s` leads to where the thread is, and changes
    nothing. -/
def UpToDate (s : σ) (t : Thread ι ε Op Reply α) : Prop :=
  (program t.task).follow handle t.answers s = some (t.program, s)

/-- The thread has ended with a result that counts. -/
def succeeded (ok : α → Bool) (t : Thread ι ε Op Reply α) : Bool := t.program.result?.any ok

/-- The threads replayed one after the other, when each succeeds. -/
def serially (ok : α → Bool) : List (Thread ι ε Op Reply α) → σ → Option σ
  | [], s => some s
  | t :: ts, s =>
    match (program t.task).run handle t.answers s with
    | some (a, s') => if ok a then serially ok ts s' else none
    | none => none

variable {handle program} {ok : α → Bool} {s s' : σ} {t : Thread ι ε Op Reply α}

theorem serially_append (ts ts' : List (Thread ι ε Op Reply α)) (s : σ) :
    serially handle program ok (ts ++ ts') s
      = (serially handle program ok ts s).bind (serially handle program ok ts') := by
  induction ts generalizing s with
  | nil => rfl
  | cons t ts ih =>
      rw [List.cons_append, serially, serially]
      cases (program t.task).run handle t.answers s with
      | none => rfl
      | some r =>
          by_cases hok : ok r.1 = true
          · simp only [hok, if_true, ih]
          · simp only [hok]
            rfl

/-- The thread after its next call. -/
def next (t : Thread ι ε Op Reply α) (answer : ε) (program : Program Op Reply α) :
    Thread ι ε Op Reply α :=
  { t with answers := t.answers ++ [answer], program }

/-- **A call of a thread that is up to date is a call of its replay.** -/
theorem UpToDate.follow {answer : ε} {p : Program Op Reply α} (h : UpToDate handle program s t)
    (hstep : t.program.advance handle answer s = some (p, s')) :
    (program t.task).follow handle (t.answers ++ [answer]) s = some (p, s') := by
  rw [Program.follow_append, h]
  show (t.program.advance handle answer s).bind _ = _
  rw [hstep]
  rfl

/-- A call that changes nothing leaves a thread up to date. -/
theorem UpToDate.advance {answer : ε} {p : Program Op Reply α} (h : UpToDate handle program s t)
    (hstep : t.program.advance handle answer s = some (p, s)) :
    UpToDate handle program s (t.next answer p) := h.follow hstep

/-- **A successful last call of a thread that is up to date ends its replay.** -/
theorem UpToDate.serially_next {answer : ε} {a : α} (h : UpToDate handle program s t)
    (hstep : t.program.advance handle answer s = some (.done a, s')) (hok : ok a = true) :
    serially handle program ok [t.next answer (.done a)] s = some s' := by
  have hrun : (program t.task).run handle (t.answers ++ [answer]) s = some (a, s') :=
    Program.run_of_follow (h.follow hstep)
  simp only [serially, next, hrun, hok, if_true]

/-! ## The threads that succeeded -/

/-- A thread that succeeds joins the others that did. -/
theorem filter_set_perm {α : Type} {p : α → Bool} {l : List α} {i : Nat} {a b : α}
    (hi : l[i]? = some a) (ha : p a = false) (hb : p b = true) :
    ((l.set i b).filter p).Perm (l.filter p ++ [b]) := by
  induction l generalizing i with
  | nil => cases hi
  | cons x l ih =>
      cases i with
      | zero =>
          obtain rfl := Option.some.inj hi
          simpa [ha, hb] using (List.perm_append_singleton b (l.filter p)).symm
      | succ i =>
          have hl := ih (i := i) (by simpa using hi)
          rw [List.set_cons_succ, List.filter_cons, List.filter_cons]
          split
          · exact hl.cons x
          · exact hl

/-- A thread that does not succeed leaves the others as they are. -/
theorem filter_set_eq {α : Type} {p : α → Bool} {l : List α} {i : Nat} {a b : α}
    (hi : l[i]? = some a) (ha : p a = false) (hb : p b = false) :
    (l.set i b).filter p = l.filter p := by
  induction l generalizing i with
  | nil => cases hi
  | cons x l ih =>
      cases i with
      | zero =>
          obtain rfl := Option.some.inj hi
          simp [ha, hb]
      | succ i =>
          rw [List.set_cons_succ, List.filter_cons, List.filter_cons, ih (by simpa using hi)]

end Thread
