import Mathlib.Tactic

set_option autoImplicit false

/-! # Programs over a shared state

A sequential program is a tree of calls: it is finished, or it makes a call of an interface and
goes on with the reply. The interface is a type of calls `Op` with the type of each one's reply;
its meaning is a handler, which answers a call in a state with an answer of the environment. A
thread is a program that makes one call at a time; between two of its calls the state may change.

Two predicates carry what is proved about threads:

* `Program.Uses` — every call the program can make, whatever the replies, is an allowed one;
* `Setting.Safe` — a rely-guarantee judgement: as long as the others keep to `rely` and the calls
  are answered within `guard`, every call keeps to `guar`, and the result satisfies a
  postcondition.

Both are closed under sequencing, so each function of a program has one specification. -/

/-- A program that returns an `α`. -/
inductive Program (Op : Type) (Reply : Op → Type) (α : Type) where
  | done (a : α)
  | call (op : Op) (next : Reply op → Program Op Reply α)

namespace Program

variable {Op : Type} {Reply : Op → Type} {α β : Type}

/-- Sequencing. -/
def bind : Program Op Reply α → (α → Program Op Reply β) → Program Op Reply β
  | done a, f => f a
  | call op next, f => call op fun r => (next r).bind f

instance : Monad (Program Op Reply) where
  pure := done
  bind := bind

/-- One call. -/
def perform (op : Op) : Program Op Reply (Reply op) := call op done

/-- Doing something for each element of a list in turn. -/
def forEach {ι : Type} (f : ι → Program Op Reply Unit) : List ι → Program Op Reply Unit
  | [] => done ()
  | x :: xs => (f x).bind fun _ => forEach f xs

/-- The call a program waits for. -/
def next? : Program Op Reply α → Option Op
  | done _ => none
  | call op _ => some op

/-- The result of a finished program. -/
def result? : Program Op Reply α → Option α
  | done a => some a
  | call _ _ => none

section Handler

variable {σ ε : Type} (handle : (op : Op) → ε → σ → Reply op × σ)

/-- The next call is made and answered. -/
def advance (e : ε) (s : σ) : Program Op Reply α → Option (Program Op Reply α × σ)
  | done _ => none
  | call op next => some (next (handle op e s).1, (handle op e s).2)

/-- A program run alone, with one answer for each of its calls. -/
def run : List ε → σ → Program Op Reply α → Option (α × σ)
  | _, s, done a => some (a, s)
  | [], _, call _ _ => none
  | e :: es, s, call op next => run es (handle op e s).2 (next (handle op e s).1)

/-- Answered alike again and again, a program ends. -/
theorem exists_run (e : ε) (p : Program Op Reply α) (s : σ) :
    ∃ n a s', p.run handle (List.replicate n e) s = some (a, s') := by
  induction p generalizing s with
  | done a => exact ⟨0, a, s, rfl⟩
  | call op next ih =>
      obtain ⟨n, a, s', hrun⟩ := ih (handle op e s).1 (handle op e s).2
      exact ⟨n + 1, a, s', hrun⟩

end Handler

/-! ## Which calls a program makes -/

/-- Every call of the program is allowed. -/
def Uses (allowed : Op → Prop) : Program Op Reply α → Prop
  | done _ => True
  | call op next => allowed op ∧ ∀ r, (next r).Uses allowed

variable {allowed : Op → Prop}

theorem Uses.pure (a : α) : (Pure.pure a : Program Op Reply α).Uses allowed := trivial

theorem Uses.perform {op : Op} (h : allowed op) :
    (Program.perform op : Program Op Reply _).Uses allowed := ⟨h, fun _ => trivial⟩

theorem Uses.bind {p : Program Op Reply α} {f : α → Program Op Reply β} (hp : p.Uses allowed)
    (hf : ∀ a, (f a).Uses allowed) : (p >>= f).Uses allowed := by
  induction p with
  | done a => exact hf a
  | call op next ih => exact ⟨hp.1, fun r => ih r (hp.2 r)⟩

/-- Without a condition every program is allowed. -/
theorem uses_true (p : Program Op Reply α) : p.Uses fun _ => True := by
  induction p with
  | done a => trivial
  | call op next ih => exact ⟨trivial, ih⟩

theorem Uses.mono {allowed' : Op → Prop} {p : Program Op Reply α} (hp : p.Uses allowed)
    (h : ∀ op, allowed op → allowed' op) : p.Uses allowed' := by
  induction p with
  | done a => trivial
  | call op next ih => exact ⟨h op hp.1, fun r => ih r (hp.2 r)⟩

theorem Uses.forEach {ι : Type} {f : ι → Program Op Reply Unit} {xs : List ι}
    (h : ∀ x ∈ xs, (f x).Uses allowed) : (Program.forEach f xs).Uses allowed := by
  induction xs with
  | nil => trivial
  | cons x xs ih =>
      exact Uses.bind (h x (by simp)) fun _ => ih fun y hy => h y (List.mem_cons_of_mem _ hy)

/-- What a thread does next is allowed, and so is what remains. -/
theorem Uses.advance {σ ε : Type} {handle : (op : Op) → ε → σ → Reply op × σ} {e : ε} {s s' : σ}
    {p p' : Program Op Reply α} (hp : p.Uses allowed) (h : p.advance handle e s = some (p', s')) :
    (∃ op, allowed op ∧ s' = (handle op e s).2) ∧ p'.Uses allowed := by
  cases p with
  | done a => cases h
  | call op next =>
      obtain ⟨rfl, rfl⟩ := Prod.mk.inj (Option.some.inj h)
      exact ⟨⟨op, hp.1, rfl⟩, hp.2 _⟩

end Program

/-! ## Rely and guarantee -/

/-- The setting a thread runs in: the handler of its calls, what the other threads may do between
    two of them, which answers are considered, and what the thread itself promises to do. -/
structure Setting (Op : Type) (Reply : Op → Type) (σ ε : Type) where
  handle : (op : Op) → ε → σ → Reply op × σ
  rely : σ → σ → Prop
  guard : Op → ε → σ → Prop
  guar : σ → σ → Prop
  rely_refl : ∀ s, rely s s
  rely_trans : ∀ {s s' s''}, rely s s' → rely s' s'' → rely s s''

namespace Setting

variable {Op : Type} {Reply : Op → Type} {σ ε α β : Type} (S : Setting Op Reply σ ε)

/-- From the state `s` on, the program keeps its promise and ends with `post`. -/
def Safe (post : α → σ → Prop) : Program Op Reply α → σ → Prop
  | .done a, s => ∀ s', S.rely s s' → post a s'
  | .call op next, s => ∀ s', S.rely s s' → ∀ e, S.guard op e s' →
      S.guar s' (S.handle op e s').2 ∧
        Safe post (next (S.handle op e s').1) (S.handle op e s').2

variable {S} {post : α → σ → Prop} {p : Program Op Reply α} {s s' : σ}

/-- What the others do does not invalidate the judgement. -/
theorem Safe.rely (h : S.Safe post p s) (hrely : S.rely s s') : S.Safe post p s' := by
  cases p with
  | done a => exact fun s'' h'' => h s'' (S.rely_trans hrely h'')
  | call op next => exact fun s'' h'' e he => h s'' (S.rely_trans hrely h'') e he

theorem Safe.result (h : S.Safe post p s) {a : α} (ha : p.result? = some a) : post a s := by
  cases p with
  | done b =>
      obtain rfl := Option.some.inj ha
      exact h s (S.rely_refl s)
  | call op next => cases ha

/-- A step of the thread keeps its promise and the judgement. -/
theorem Safe.advance (h : S.Safe post p s) {p' : Program Op Reply α} {e : ε}
    (hguard : ∀ op, p.next? = some op → S.guard op e s)
    (hstep : p.advance S.handle e s = some (p', s')) : S.guar s s' ∧ S.Safe post p' s' := by
  cases p with
  | done a => cases hstep
  | call op next =>
      obtain ⟨rfl, rfl⟩ := Prod.mk.inj (Option.some.inj hstep)
      exact h s (S.rely_refl s) e (hguard op rfl)

theorem Safe.mono {post' : α → σ → Prop} (h : S.Safe post p s)
    (hpost : ∀ a s, post a s → post' a s) : S.Safe post' p s := by
  induction p generalizing s with
  | done a => exact fun s' hs' => hpost a s' (h s' hs')
  | call op next ih =>
      intro s' hs' e he
      obtain ⟨hguar, hnext⟩ := h s' hs' e he
      exact ⟨hguar, ih _ hnext⟩

/-- The rule for a finished program: the postcondition survives the others. -/
theorem Safe.pure {a : α} (h : ∀ s', S.rely s s' → post a s') :
    S.Safe post (Pure.pure a) s := h

/-- The rule for one call. -/
theorem Safe.perform {op : Op} {post : Reply op → σ → Prop}
    (h : ∀ s', S.rely s s' → ∀ e, S.guard op e s' →
      S.guar s' (S.handle op e s').2 ∧
        ∀ s'', S.rely (S.handle op e s').2 s'' → post (S.handle op e s').1 s'') :
    S.Safe post (Program.perform op) s := h

/-- The rule for one call when what is known before it and after it does not depend on the others. -/
theorem Safe.perform_stable {op : Op} {before : σ → Prop} {after : Reply op → σ → Prop}
    (hbefore : ∀ {s s'}, S.rely s s' → before s → before s')
    (hafter : ∀ {r s s'}, S.rely s s' → after r s → after r s')
    (hcall : ∀ e s, before s → S.guard op e s →
      S.guar s (S.handle op e s).2 ∧ after (S.handle op e s).1 (S.handle op e s).2)
    (h : before s) : S.Safe after (Program.perform op) s :=
  Safe.perform fun _ hs' e hguard =>
    have hs' := hcall e _ (hbefore hs' h) hguard
    ⟨hs'.1, fun _ hs'' => hafter hs'' hs'.2⟩

/-- **The rule of sequencing.** -/
theorem Safe.bind {f : α → Program Op Reply β} {post' : β → σ → Prop} (h : S.Safe post p s)
    (hf : ∀ a s', post a s' → S.Safe post' (f a) s') : S.Safe post' (p >>= f) s := by
  induction p generalizing s with
  | done a => exact hf a s (h s (S.rely_refl s))
  | call op next ih =>
      intro s' hs' e he
      obtain ⟨hguar, hnext⟩ := h s' hs' e he
      exact ⟨hguar, ih _ hnext⟩

/-- The rule for a loop over a list, with an invariant that the others keep. -/
theorem Safe.forEach {ι : Type} {f : ι → Program Op Reply Unit} (inv : σ → Prop)
    (hstable : ∀ {s s'}, S.rely s s' → inv s → inv s') {xs : List ι}
    (h : ∀ x ∈ xs, ∀ s, inv s → S.Safe (fun _ => inv) (f x) s) (hinv : inv s) :
    S.Safe (fun _ => inv) (Program.forEach f xs) s := by
  induction xs generalizing s with
  | nil => exact fun s' hs' => hstable hs' hinv
  | cons x xs ih =>
      exact Safe.bind (h x (by simp) s hinv) fun _ s' hs' =>
        ih (fun y hy => h y (List.mem_cons_of_mem _ hy)) hs'

/-! ## Alone -/

/-- The setting of a program that runs alone: nobody else changes the state. -/
def sequential (handle : (op : Op) → ε → σ → Reply op × σ) (guard : Op → ε → σ → Prop) :
    Setting Op Reply σ ε where
  handle := handle
  rely := Eq
  guard := guard
  guar _ _ := True
  rely_refl _ := rfl
  rely_trans := Eq.trans

section Sequential

variable {handle : (op : Op) → ε → σ → Reply op × σ} {guard : Op → ε → σ → Prop}

theorem Safe.sequential_true (p : Program Op Reply α) (s : σ) :
    (sequential handle guard).Safe (fun _ _ => True) p s := by
  induction p generalizing s with
  | done a => exact fun _ _ => trivial
  | call op next ih => exact fun s' _ e _ => ⟨trivial, ih _ _⟩

theorem Safe.sequential_pure {a : α} (h : post a s) :
    (sequential handle guard).Safe post (Pure.pure a) s := fun _ hs' => hs' ▸ h

theorem Safe.sequential_perform {op : Op} {post : Reply op → σ → Prop}
    (h : ∀ e, guard op e s → post (handle op e s).1 (handle op e s).2) :
    (sequential handle guard).Safe post (Program.perform op) s := by
  rintro s' rfl e he
  exact ⟨trivial, fun s'' hs'' => hs'' ▸ h e he⟩

/-- What a program that runs alone ends with. -/
theorem Safe.run (h : (sequential handle guard).Safe post p s) {answers : List ε}
    (hguard : ∀ op, ∀ e ∈ answers, ∀ s, guard op e s) {a : α}
    (hrun : p.run handle answers s = some (a, s')) : post a s' := by
  induction p generalizing answers s with
  | done b =>
      obtain ⟨rfl, rfl⟩ : b = a ∧ s = s' := by cases answers <;> simpa [Program.run] using hrun
      exact h s rfl
  | call op next ih =>
      cases answers with
      | nil => cases hrun
      | cons e answers =>
          have hnext := (h s rfl e (hguard op e List.mem_cons_self s)).2
          exact ih _ hnext (fun op e he => hguard op e (List.mem_cons_of_mem _ he)) hrun

end Sequential

end Setting
