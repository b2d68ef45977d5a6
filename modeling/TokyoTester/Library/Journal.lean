import TokyoTester.Library.Program

set_option autoImplicit false

/-! # Journals of calls

A run of a program is what it does from a state on, while the others change the state between two
of its calls. To say something about the order of its calls, the state is extended by a journal of
the calls made so far with their replies. `Setting.journaled` turns a setting and a condition
`may` on the next call, given the journal, into a setting over journals; a program that is safe
there makes only such calls in every run (`Setting.Safe.allowed`). -/

/-- A call and its reply. -/
abbrev Event {Op : Type} (Reply : Op → Type) := (op : Op) × Reply op

/-- A state, and the calls made so far. -/
structure Journal {Op : Type} (Reply : Op → Type) (σ : Type) where
  events : List (Event Reply) := []
  state : σ

/-- The calls of a program that runs alone. -/
def Program.events {Op : Type} {Reply : Op → Type} {σ ε α : Type}
    (handle : (op : Op) → ε → σ → Reply op × σ) : List ε → σ → Program Op Reply α →
    List (Event Reply)
  | _, _, .done _ => []
  | [], _, .call _ _ => []
  | e :: es, s, .call op next =>
    ⟨op, (handle op e s).1⟩ :: events handle es (handle op e s).2 (next (handle op e s).1)

/-- A program run alone, as long as each of its calls passes a check. -/
def Program.runChecked {Op : Type} {Reply : Op → Type} {σ ε α : Type}
    (handle : (op : Op) → ε → σ → Reply op × σ) (check : Op → ε → σ → Bool) :
    List ε → σ → Program Op Reply α → Option (α × σ)
  | _, s, .done a => some (a, s)
  | [], _, .call _ _ => none
  | e :: es, s, .call op next =>
    if check op e s then
      runChecked handle check es (handle op e s).2 (next (handle op e s).1)
    else none

namespace Setting

variable {Op : Type} {Reply : Op → Type} {σ ε α β : Type}

/-- A program runs from a state to another with these calls, and this remains of it. -/
inductive Run (S : Setting Op Reply σ ε) :
    σ → Program Op Reply α → List (Event Reply) → σ → Program Op Reply α → Prop where
  | stop (s : σ) (p : Program Op Reply α) : Run S s p [] s p
  | others {s s' s'' : σ} {p q : Program Op Reply α} {events : List (Event Reply)}
      (first : S.rely s s') (rest : Run S s' p events s'' q) : Run S s p events s'' q
  | call {s s'' : σ} {op : Op} {next : Reply op → Program Op Reply α} (e : ε)
      {events : List (Event Reply)} {q : Program Op Reply α} (ok : S.guard op e s)
      (rest : Run S (S.handle op e s).2 (next (S.handle op e s).1) events s'' q) :
      Run S s (.call op next) (⟨op, (S.handle op e s).1⟩ :: events) s'' q

variable {S : Setting Op Reply σ ε} {post : α → σ → Prop} {p q : Program Op Reply α} {s s' : σ}
  {events : List (Event Reply)}

/-- A run goes on. -/
theorem Run.trans {s'' : σ} {r : Program Op Reply α} {events' : List (Event Reply)}
    (h : S.Run s p events s' q) (h' : S.Run s' q events' s'' r) :
    S.Run s p (events ++ events') s'' r := by
  induction h with
  | stop s p => exact h'
  | others first rest ih => exact .others first (ih h')
  | call e ok rest ih => exact .call e ok (ih h')

/-- A run of the first part of a program. -/
theorem Run.bind {f : α → Program Op Reply β} (h : S.Run s p events s' q) :
    S.Run s (p >>= f) events s' (q >>= f) := by
  induction h with
  | stop s p => exact .stop s _
  | others first rest ih => exact .others first ih
  | call e ok rest ih => exact .call e ok ih

/-- Of a program that has ended nothing runs. -/
theorem Run.of_done {a : α} (h : S.Run s (.done a) events s' q) : events = [] ∧ q = .done a := by
  generalize hp : (Program.done a : Program Op Reply α) = p at h
  induction h with
  | stop s p => exact ⟨rfl, rfl⟩
  | others first rest ih => exact ih hp
  | call e ok rest ih => cases hp

/-- A run of two programs in sequence that ends: the first ends, and then the second. -/
theorem Run.of_bind {f : α → Program Op Reply β} {b : β}
    (h : S.Run s (p >>= f) events s' (.done b)) :
    ∃ a before t after, events = before ++ after ∧ S.Run s p before t (.done a) ∧
      S.Run t (f a) after s' (.done b) := by
  generalize hpf : p >>= f = pf at h
  generalize hb : (Program.done b : Program Op Reply β) = q at h
  induction h generalizing p with
  | stop s q =>
      cases p with
      | done a =>
          have hfa : f a = q := hpf
          exact ⟨a, [], s, [], rfl, .stop _ _, hfa ▸ .stop _ _⟩
      | call op next => cases hpf.trans hb.symm
  | others first rest ih =>
      obtain ⟨a, before, t, after, rfl, hp, hf⟩ := ih hpf hb
      exact ⟨a, before, t, after, rfl, .others first hp, hf⟩
  | @call s s'' op next e events q ok rest ih =>
      cases p with
      | done a =>
          have hfa : f a = .call op next := hpf
          exact ⟨a, [], s, _, rfl, .stop _ _, hfa ▸ .call e ok rest⟩
      | call op' next' =>
          obtain ⟨rfl, hnext⟩ := Program.call.inj hpf
          obtain rfl := eq_of_heq hnext
          obtain ⟨a, before, t, after, rfl, hp, hf⟩ := ih rfl hb
          exact ⟨a, _, t, after, rfl, .call e ok hp, hf⟩

/-- What every call of a program and the others keep. -/
theorem Run.keeps {allowed : Op → Prop} {I : σ → Prop} (hrun : S.Run s p events s' q)
    (hp : p.Uses allowed) (hrely : ∀ {s s'}, S.rely s s' → I s → I s')
    (hcall : ∀ {op e s}, allowed op → I s → I (S.handle op e s).2) (hI : I s) : I s' := by
  induction hrun with
  | stop s p => exact hI
  | others first rest ih => exact ih hp (hrely first hI)
  | call e ok rest ih => exact ih (hp.2 _) (hcall hp.1 hI)

/-- A run makes only calls that its program can make. -/
theorem Run.uses {allowed : Op → Prop} (hrun : S.Run s p events s' q) (hp : p.Uses allowed) :
    ∀ event ∈ events, allowed event.1 := by
  induction hrun with
  | stop s p => simp
  | others first rest ih => exact ih hp
  | call e ok rest ih =>
      intro event hevent
      rcases List.mem_cons.1 hevent with rfl | hevent
      · exact hp.1
      · exact ih (hp.2 _) event hevent

/-- A program run alone, with answers that are considered. -/
theorem Run.of_answers {answers : List ε} {a : α}
    (hguard : ∀ op, ∀ e ∈ answers, ∀ s, S.guard op e s)
    (h : p.run S.handle answers s = some (a, s')) :
    S.Run s p (p.events S.handle answers s) s' (.done a) := by
  induction p generalizing answers s with
  | done b =>
      obtain ⟨rfl, rfl⟩ : b = a ∧ s = s' := by
        cases answers <;> simpa [Program.run] using h
      rw [Program.events]
      exact .stop _ _
  | call op next ih =>
      cases answers with
      | nil => cases h
      | cons e answers =>
          refine .call e (hguard op e List.mem_cons_self s) (ih _ ?_ h)
          exact fun op e he => hguard op e (List.mem_cons_of_mem _ he)

/-- A program run alone, as long as each call passes a check. -/
theorem Run.of_runChecked {check : Op → ε → σ → Bool} {answers : List ε} {a : α}
    (hcheck : ∀ op e s, check op e s = true → S.guard op e s)
    (h : p.runChecked S.handle check answers s = some (a, s')) :
    S.Run s p (p.events S.handle answers s) s' (.done a) := by
  induction p generalizing answers s with
  | done b =>
      obtain ⟨rfl, rfl⟩ : b = a ∧ s = s' := by
        cases answers <;> simpa [Program.runChecked] using h
      rw [Program.events]
      exact .stop _ _
  | call op next ih =>
      cases answers with
      | nil => cases h
      | cons e answers =>
          rw [Program.runChecked] at h
          split_ifs at h with hok
          exact .call e (hcheck op e s hok) (ih _ h)

/-- A program run alone. -/
theorem Run.of_run {answers : List ε} {a : α} (hguard : ∀ op e s, S.guard op e s)
    (h : p.run S.handle answers s = some (a, s')) :
    S.Run s p (p.events S.handle answers s) s' (.done a) :=
  Run.of_answers (fun op e _ s => hguard op e s) h

/-- Where every call is answered, a program ends. -/
theorem exists_run [Inhabited ε] {allowed : Op → Prop} (hp : p.Uses allowed)
    (hguard : ∀ op s, S.guard op default s) (s : σ) :
    ∃ events s' a, S.Run s p events s' (.done a) ∧ ∀ event ∈ events, allowed event.1 := by
  induction p generalizing s with
  | done a => exact ⟨[], s, a, .stop s _, by simp⟩
  | call op next ih =>
      obtain ⟨events, s', a, hrun, hevents⟩ := ih _ (hp.2 (S.handle op default s).1)
        (S.handle op default s).2
      refine ⟨_, s', a, .call default (hguard op s) hrun, ?_⟩
      intro event hevent
      rcases List.mem_cons.1 hevent with rfl | hevent
      · exact hp.1
      · exact hevents event hevent

/-- **Along a run** the calls keep what they promise, and the judgement goes on. -/
theorem Safe.along {G : σ → σ → Prop} (hrefl : ∀ s, G s s)
    (htrans : ∀ {s s' s''}, G s s' → G s' s'' → G s s'') (hrely : ∀ {s s'}, S.rely s s' → G s s')
    (hguar : ∀ {s s'}, S.guar s s' → G s s') (h : S.Safe post p s)
    (hrun : S.Run s p events s' q) : G s s' ∧ S.Safe post q s' := by
  induction hrun with
  | stop s p => exact ⟨hrefl s, h⟩
  | others first rest ih =>
      obtain ⟨hrest, hsafe⟩ := ih (h.rely first)
      exact ⟨htrans (hrely first) hrest, hsafe⟩
  | @call s s'' op next e events q ok rest ih =>
      obtain ⟨hfirst, hnext⟩ := h s (S.rely_refl s) e ok
      obtain ⟨hrest, hsafe⟩ := ih hnext
      exact ⟨htrans (hguar hfirst) hrest, hsafe⟩

/-- The rule for a program all of whose calls keep an invariant. -/
theorem Safe.of_uses {allowed : Op → Prop} (inv : σ → Prop) (hp : p.Uses allowed)
    (hrely : ∀ {s s'}, S.rely s s' → inv s → inv s')
    (hcall : ∀ {op e s}, allowed op → S.guard op e s → inv s →
      S.guar s (S.handle op e s).2 ∧ inv (S.handle op e s).2) (hinv : inv s) :
    S.Safe (fun _ => inv) p s := by
  induction p generalizing s with
  | done a => exact fun s' hs' => hrely hs' hinv
  | call op next ih =>
      intro s' hs' e he
      obtain ⟨hguar, hkept⟩ := hcall hp.1 he (hrely hs' hinv)
      exact ⟨hguar, ih _ (hp.2 _) hkept⟩

/-- The frame rule: what every call and the others keep is still true in the end. -/
theorem Safe.frame {F : σ → Prop} (h : S.Safe post p s)
    (hrely : ∀ {s s'}, S.rely s s' → F s → F s') (hcall : ∀ {op e s}, F s → F (S.handle op e s).2)
    (hF : F s) : S.Safe (fun a s => post a s ∧ F s) p s := by
  induction p generalizing s with
  | done a => exact fun s' hs' => ⟨h s' hs', hrely hs' hF⟩
  | call op next ih =>
      intro s' hs' e he
      obtain ⟨hguar, hnext⟩ := h s' hs' e he
      exact ⟨hguar, ih _ hnext (hcall (hrely hs' hF))⟩

/-! ## Settings over journals -/

/-- The setting that keeps a journal. A call is made when the journal so far allows it. -/
def journaled (S : Setting Op Reply σ ε) (may : List (Event Reply) → Op → Prop) :
    Setting Op Reply (Journal Reply σ) ε where
  handle op e j :=
    let r := S.handle op e j.state
    (r.1, ⟨j.events ++ [⟨op, r.1⟩], r.2⟩)
  rely j j' := j'.events = j.events ∧ S.rely j.state j'.state
  guard op e j := S.guard op e j.state
  guar j j' := ∃ event : Event Reply, j'.events = j.events ++ [event] ∧ may j.events event.1
  rely_refl j := ⟨rfl, S.rely_refl j.state⟩
  rely_trans h h' := ⟨h'.1.trans h.1, S.rely_trans h.2 h'.2⟩

/-- Every call in a journal was allowed by the journal before it. -/
def Allowed (may : List (Event Reply) → Op → Prop) (events : List (Event Reply)) : Prop :=
  ∀ before event after, events = before ++ event :: after → may before event.1

variable {may : List (Event Reply) → Op → Prop} {event : Event Reply}

theorem allowed_nil : Allowed may ([] : List (Event Reply)) := by
  intro before event after h
  simp at h

theorem Allowed.append (h : Allowed may events) (hmay : may events event.1) :
    Allowed may (events ++ [event]) := by
  intro before event' after heq
  rcases List.eq_nil_or_concat' after with rfl | ⟨after, last, rfl⟩
  · obtain ⟨rfl, hevent⟩ := List.append_inj' heq rfl
    obtain rfl := (List.cons.inj hevent).1
    exact hmay
  · have heq' : events ++ [event] = (before ++ event' :: after) ++ [last] := by
      rw [heq, List.append_assoc, List.cons_append]
    exact h before event' after (List.append_inj' heq' rfl).1

/-- The call of a program over journals, when the journal allows it. -/
theorem journaled_guar {op : Op} {e : ε} {j : Journal Reply σ} (h : may j.events op) :
    (S.journaled may).guar j ((S.journaled may).handle op e j).2 := ⟨_, rfl, h⟩

/-- **A safe program makes only calls that the journal allows**, in every run. -/
theorem Safe.allowed {post : α → Journal Reply σ → Prop} {before : List (Event Reply)}
    (hrun : S.Run s p events s' q) (h : (S.journaled may).Safe post p ⟨before, s⟩)
    (hbefore : Allowed may before) :
    (S.journaled may).Safe post q ⟨before ++ events, s'⟩ ∧ Allowed may (before ++ events) := by
  induction hrun generalizing before with
  | stop s p =>
      rw [List.append_nil]
      exact ⟨h, hbefore⟩
  | others first rest ih => exact ih (h.rely ⟨rfl, first⟩) hbefore
  | @call s s'' op next e events q ok rest ih =>
      obtain ⟨⟨event, hevent, hmay⟩, hnext⟩ := h ⟨before, s⟩ ⟨rfl, S.rely_refl s⟩ e ok
      obtain rfl := (List.cons.inj (List.append_cancel_left hevent)).1
      rw [List.append_cons]
      exact ih hnext (hbefore.append hmay)

/-- What a finished run ends with. -/
theorem Safe.finished {post : α → Journal Reply σ → Prop} {a : α}
    (hrun : S.Run s p events s' (.done a)) (h : (S.journaled may).Safe post p ⟨[], s⟩) :
    post a ⟨events, s'⟩ ∧ Allowed may events :=
  have hend := Safe.allowed hrun h allowed_nil
  ⟨hend.1 _ ⟨rfl, S.rely_refl s'⟩, hend.2⟩

end Setting
