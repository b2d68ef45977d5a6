import Mathlib.Logic.Function.Basic
import Mathlib.Tactic

set_option autoImplicit false

/-! # Answers kept in a cache

A question asks a store for one key and, if nothing is stored under it, for another one. The
answers are kept in a cache that a run of questions shares, also the answer that there is nothing;
a cached answer is final, so a question whose first key is known to have nothing does not ask for
the second one. A run gives what an empty cache would have given exactly when no question is
shadowed in this way. -/

namespace Memo

variable {κ ε α : Type} [DecidableEq κ]

/-- What is known of a key: nothing, or the answer for it. -/
abbrev Cache (κ α : Type) := κ → Option (Option α)

def Cache.empty : Cache κ α := fun _ => none

structure Question (κ : Type) where
  first : Option κ
  second : Option κ

/-- One key of a question, and what to do if nothing is stored under it. -/
def attempt (answers : κ → Except ε (Option α)) (key : Option κ)
    (next : Cache κ α → Except ε (Option α) × Cache κ α) (cache : Cache κ α) :
    Except ε (Option α) × Cache κ α :=
  match key with
  | none => next cache
  | some k =>
    match cache k with
    | some known => (.ok known, cache)
    | none =>
      match answers k with
      | .error e => (.error e, cache)
      | .ok (some a) => (.ok (some a), Function.update cache k (some (some a)))
      | .ok none => next (Function.update cache k (some none))

def ask (answers : κ → Except ε (Option α)) (q : Question κ) (cache : Cache κ α) :
    Except ε (Option α) × Cache κ α :=
  attempt answers q.first (attempt answers q.second fun cache => (.ok none, cache)) cache

/-- What a question gives with an empty cache. -/
def fresh (answers : κ → Except ε (Option α)) (q : Question κ) : Except ε (Option α) :=
  (ask answers q Cache.empty).1

/-- The first keys of questions are of one sort, the second keys of another one. -/
structure Levelled (primary : κ → Prop) (q : Question κ) : Prop where
  first : ∀ k, q.first = some k → primary k
  second : ∀ k, q.second = some k → ¬primary k

/-- The cache after the questions `asked`. -/
structure Known (answers : κ → Except ε (Option α)) (primary : κ → Prop)
    (asked : List (Question κ)) (cache : Cache κ α) : Prop where
  told : ∀ k known, cache k = some known → answers k = .ok known
  firsts : ∀ k, primary k → ((cache k).isSome = true ↔ ∃ q ∈ asked, q.first = some k)

/-- The first key of the question is known to have nothing, but the question has an answer. -/
def Shadowed (answers : κ → Except ε (Option α)) (asked : List (Question κ)) (q : Question κ) :
    Prop :=
  (∃ k, q.first = some k ∧ answers k = .ok none ∧ ∃ p ∈ asked, p.first = some k) ∧
    fresh answers q ≠ .ok none

variable {answers : κ → Except ε (Option α)} {primary : κ → Prop} {asked : List (Question κ)}
  {cache : Cache κ α} {q : Question κ}

theorem attempt_some (k : κ) (next : Cache κ α → Except ε (Option α) × Cache κ α)
    (cache : Cache κ α) :
    attempt answers (some k) next cache = match cache k with
      | some known => (.ok known, cache)
      | none =>
        match answers k with
        | .error e => (.error e, cache)
        | .ok (some a) => (.ok (some a), Function.update cache k (some (some a)))
        | .ok none => next (Function.update cache k (some none)) := rfl

omit [DecidableEq κ] in
theorem known_empty : Known answers primary [] (Cache.empty : Cache κ α) :=
  ⟨by simp [Cache.empty], by simp [Cache.empty]⟩

/-! ## One question -/

/-- What the second key of a question gives. -/
def secondAnswer (answers : κ → Except ε (Option α)) (q : Question κ) : Except ε (Option α) :=
  match q.second with
  | none => .ok none
  | some k => answers k

/-- **The second key gives what the store says**, if what is cached was told by the store. -/
theorem attempt_second (htold : ∀ k known, cache k = some known → answers k = .ok known) :
    (attempt answers q.second (fun cache => (.ok none, cache)) cache).1
      = secondAnswer answers q := by
  unfold attempt secondAnswer
  cases q.second with
  | none => rfl
  | some k =>
      dsimp only
      cases hc : cache k with
      | some known => exact (htold k known hc).symm
      | none =>
          dsimp only
          rcases answers k with e | _ | a <;> rfl

/-- What the answer of the second key leaves in the cache. -/
theorem attempt_second_cache {r : Option α} {k : κ}
    (h : (attempt answers q.second (fun cache => (.ok none, cache)) cache).1 = .ok r) :
    (attempt answers q.second (fun cache => (.ok none, cache)) cache).2 k = cache k ∨
      q.second = some k ∧ ∃ known, answers k = .ok known ∧
        (attempt answers q.second (fun cache => (.ok none, cache)) cache).2 k = some known := by
  revert h
  unfold attempt
  cases q.second with
  | none => exact fun _ => .inl rfl
  | some i =>
      dsimp only
      cases cache i with
      | some known => exact fun _ => .inl rfl
      | none =>
          dsimp only
          intro h
          by_cases hik : i = k
          · subst hik
            cases hanswer : answers i with
            | error e => exact .inl rfl
            | ok known => cases known <;> exact .inr ⟨rfl, _, rfl, Function.update_self ..⟩
          · refine .inl ?_
            rcases answers i with e | _ | a
            · rfl
            · exact Function.update_of_ne (Ne.symm hik) ..
            · exact Function.update_of_ne (Ne.symm hik) ..

theorem told_update {k : κ} {known : Option α}
    (htold : ∀ k known, cache k = some known → answers k = .ok known)
    (hanswer : answers k = .ok known) :
    ∀ i r, Function.update cache k (some known) i = some r → answers i = .ok r := by
  intro i r hi
  by_cases hik : i = k
  · subst hik
    rw [Function.update_self] at hi
    obtain rfl := Option.some.inj hi
    exact hanswer
  · rw [Function.update_of_ne hik] at hi
    exact htold i r hi

/-- What a question gives with an empty cache: the answer of its first key, and if there is none,
    the one of its second key. -/
theorem fresh_eq (answers : κ → Except ε (Option α)) (q : Question κ) :
    fresh answers q = match q.first.map answers with
      | some (.error e) => .error e
      | some (.ok (some a)) => .ok (some a)
      | _ => secondAnswer answers q := by
  unfold fresh ask
  cases hfirst : q.first with
  | none =>
      show (attempt answers q.second _ Cache.empty).1 = secondAnswer answers q
      exact attempt_second (by simp [Cache.empty])
  | some k =>
      simp only [attempt, Cache.empty, Option.map_some]
      cases hanswer : answers k with
      | error e => rfl
      | ok r =>
          cases r with
          | some a => rfl
          | none => exact attempt_second (told_update (fun _ _ h => by cases h) hanswer)

/-- **A question is answered as with an empty cache** if and only if it is not shadowed. -/
theorem ask_eq_fresh_iff (hk : Known answers primary asked cache) (hq : Levelled primary q) :
    (ask answers q cache).1 = fresh answers q ↔ ¬Shadowed answers asked q := by
  cases hfirst : q.first with
  | none =>
      have hfresh : fresh answers q = secondAnswer answers q := by
        rw [fresh_eq, hfirst]
        rfl
      have hask : (ask answers q cache).1 = secondAnswer answers q := by
        unfold ask
        rw [hfirst]
        exact attempt_second hk.told
      simp [hfresh, hask, Shadowed, hfirst]
  | some k =>
      have hprimary := hk.firsts k (hq.first k hfirst)
      cases hc : cache k with
      | some known =>
          have hanswer := hk.told k known hc
          have hask : (ask answers q cache).1 = .ok known := by
            simp only [ask, hfirst, attempt, hc]
          rw [hc] at hprimary
          cases known with
          | some a =>
              have hfresh : fresh answers q = .ok (some a) := by
                rw [fresh_eq, hfirst, Option.map_some, hanswer]
              simp [hask, hfresh, Shadowed, hfirst, hanswer]
          | none =>
              -- the cached answer is final
              have hshadowed : Shadowed answers asked q ↔ fresh answers q ≠ .ok none :=
                ⟨And.right, fun h => ⟨⟨k, hfirst, hanswer, hprimary.1 rfl⟩, h⟩⟩
              rw [hask, hshadowed, not_ne_iff, eq_comm]
      | none =>
          rw [hc] at hprimary
          have hnot : ¬Shadowed answers asked q := by
            rintro ⟨⟨i, hi, -, hasked⟩, -⟩
            obtain rfl : k = i := Option.some.inj (hfirst.symm.trans hi)
            simpa using hprimary.2 hasked
          refine ⟨fun _ => hnot, fun _ => ?_⟩
          rw [fresh_eq, hfirst, Option.map_some]
          simp only [ask, hfirst, attempt, hc]
          cases hanswer : answers k with
          | error e => rfl
          | ok r =>
              cases r with
              | some a => rfl
              | none => exact attempt_second (told_update hk.told hanswer)

/-- **The cache after a question that gave an answer.** -/
theorem Known.ask (hk : Known answers primary asked cache) (hq : Levelled primary q)
    {r : Option α} (h : (ask answers q cache).1 = .ok r) :
    Known answers primary (asked ++ [q]) (ask answers q cache).2 := by
  -- the second key changes no primary key
  have hsecond : ∀ c : Cache κ α, (∀ k known, c k = some known → answers k = .ok known) →
      (∀ k, primary k → ((c k).isSome = true ↔ ∃ p ∈ asked ++ [q], p.first = some k)) →
      (attempt answers q.second (fun cache => (.ok none, cache)) c).1 = .ok r →
      Known answers primary (asked ++ [q])
        (attempt answers q.second (fun cache => (.ok none, cache)) c).2 := by
    intro c htold hfirsts hr
    refine ⟨fun k known hc => ?_, fun k hprimary => ?_⟩
    · rcases attempt_second_cache (k := k) hr with heq | ⟨-, known', hanswer, heq⟩
      · exact htold k known (heq ▸ hc)
      · rw [heq] at hc
        obtain rfl := Option.some.inj hc
        exact hanswer
    · rcases attempt_second_cache (k := k) hr with heq | ⟨hk', -⟩
      · rw [heq]
        exact hfirsts k hprimary
      · exact absurd hprimary (hq.second k hk')
  have hadded : ∀ k, (∃ p ∈ asked ++ [q], p.first = some k) ↔
      (∃ p ∈ asked, p.first = some k) ∨ q.first = some k := by
    intro k
    simp [or_and_right, exists_or]
  unfold Memo.ask at h ⊢
  cases hfirst : q.first with
  | none =>
      rw [hfirst] at h
      refine hsecond cache hk.told (fun k hprimary => ?_) h
      rw [hadded, hfirst, hk.firsts k hprimary]
      simp
  | some k =>
      rw [hfirst] at h
      have hset : ∀ known : Option α, ∀ i, primary i →
          ((Function.update cache k (some known) i).isSome = true ↔
            ∃ p ∈ asked ++ [q], p.first = some i) := by
        intro known i hprimary
        rw [hadded, hfirst]
        by_cases hik : i = k
        · simp [hik]
        · rw [Function.update_of_ne hik, hk.firsts i hprimary]
          simp [Ne.symm hik]
      simp only [attempt] at h ⊢
      cases hc : cache k with
      | some known =>
          refine ⟨hk.told, fun i hprimary => ?_⟩
          rw [hadded, hfirst, hk.firsts i hprimary]
          constructor
          · exact Or.inl
          · rintro (hi | hi)
            · exact hi
            · obtain rfl := Option.some.inj hi
              exact (hk.firsts k hprimary).1 (by rw [hc]; rfl)
      | none =>
          rw [hc] at h
          dsimp only at h ⊢
          cases hanswer : answers k with
          | error e =>
              rw [hanswer] at h
              cases h
          | ok known =>
              rw [hanswer] at h
              have htold := told_update hk.told hanswer
              cases known with
              | some a => exact ⟨htold, hset (some a)⟩
              | none => exact hsecond _ htold (hset none) h

/-! ## A run of questions -/

/-- No question is shadowed by the ones before it, as far as they are answered. -/
def Clear (answers : κ → Except ε (Option α)) :
    List (Question κ) → List (Question κ) → Prop
  | _, [] => True
  | asked, q :: qs =>
    ¬Shadowed answers asked q ∧
      ((∃ r, fresh answers q = .ok r) → Clear answers (asked ++ [q]) qs)

theorem clear_append (asked qs qs' : List (Question κ)) :
    Clear answers asked (qs ++ qs') ↔ Clear answers asked qs ∧
      ((∀ q ∈ qs, ∃ r, fresh answers q = .ok r) → Clear answers (asked ++ qs) qs') := by
  induction qs generalizing asked with
  | nil => simp [Clear]
  | cons q qs ih =>
      simp only [List.cons_append, Clear, ih, List.forall_mem_cons, List.append_assoc]
      tauto

/-- The questions of a run with the caches that they are asked with, and the cache after it if
    every one of them is answered. -/
def asking (answers : κ → Except ε (Option α)) :
    List (Question κ) → Cache κ α → List (Question κ × Cache κ α) × Option (Cache κ α)
  | [], cache => ([], some cache)
  | q :: qs, cache =>
    match ask answers q cache with
    | (.error _, _) => ([(q, cache)], none)
    | (.ok _, cache') =>
      let rest := asking answers qs cache'
      ((q, cache) :: rest.1, rest.2)

variable {qs : List (Question κ)}

theorem asking_cons_of_ok {r : Option α} (h : (ask answers q cache).1 = .ok r) :
    asking answers (q :: qs) cache = ((q, cache) :: (asking answers qs (ask answers q cache).2).1,
      (asking answers qs (ask answers q cache).2).2) := by
  rw [asking]
  split
  · next e c heq => rw [heq] at h; cases h
  · next r c heq => rw [heq]

theorem asking_cons_of_error {e : ε} (h : (ask answers q cache).1 = .error e) :
    asking answers (q :: qs) cache = ([(q, cache)], none) := by
  rw [asking]
  split
  · rfl
  · next r c heq => rw [heq] at h; cases h

/-- Every question of a run is answered as with an empty cache. -/
def Faithful (answers : κ → Except ε (Option α)) (qs : List (Question κ)) (cache : Cache κ α) :
    Prop :=
  ∀ call ∈ (asking answers qs cache).1, (ask answers call.1 call.2).1 = fresh answers call.1

/-- **A run is answered as with an empty cache** if and only if no question of it is shadowed. -/
theorem faithful_iff (hk : Known answers primary asked cache)
    (hqs : ∀ q ∈ qs, Levelled primary q) :
    Faithful answers qs cache ↔ Clear answers asked qs := by
  induction qs generalizing asked cache with
  | nil => simp [Faithful, asking, Clear]
  | cons q qs ih =>
      have hq := hqs q List.mem_cons_self
      have hiff := ask_eq_fresh_iff hk hq
      cases hask : (ask answers q cache).1 with
      | error e =>
          rw [hask] at hiff
          simp only [Faithful, asking_cons_of_error hask, List.forall_mem_singleton, Clear, hask,
            hiff]
          refine ⟨fun hclear => ⟨hclear, fun hok => ?_⟩, And.left⟩
          obtain ⟨r, hr⟩ := hok
          rw [← hiff.2 hclear] at hr
          cases hr
      | ok r =>
          have hrest := ih (hk.ask hq hask) fun q' hq' => hqs q' (List.mem_cons_of_mem q hq')
          rw [hask] at hiff
          rw [Faithful] at hrest ⊢
          simp only [asking_cons_of_ok hask, List.forall_mem_cons, hask, hiff, Clear, hrest]
          refine and_congr_right fun hclear => ⟨fun h _ => h, fun h => h ⟨r, ?_⟩⟩
          exact (hiff.2 hclear).symm

/-- What is known after a run in which every question was answered. -/
theorem known_of_asking (hk : Known answers primary asked cache)
    (hqs : ∀ q ∈ qs, Levelled primary q) {cache' : Cache κ α}
    (h : (asking answers qs cache).2 = some cache') :
    Known answers primary (asked ++ qs) cache' ∧
      (Faithful answers qs cache → ∀ q ∈ qs, ∃ r, fresh answers q = .ok r) := by
  induction qs generalizing asked cache with
  | nil =>
      obtain rfl := Option.some.inj h
      exact ⟨by simpa using hk, by simp⟩
  | cons q qs ih =>
      have hq := hqs q List.mem_cons_self
      cases hask : (ask answers q cache).1 with
      | error e =>
          rw [asking_cons_of_error hask] at h
          cases h
      | ok r =>
          rw [asking_cons_of_ok hask] at h
          obtain ⟨hknown, hanswered⟩ :=
            ih (hk.ask hq hask) (fun q' hq' => hqs q' (List.mem_cons_of_mem q hq')) h
          refine ⟨by simpa using hknown, fun hfaithful => ?_⟩
          rw [Faithful, asking_cons_of_ok hask, List.forall_mem_cons] at hfaithful
          rw [List.forall_mem_cons]
          exact ⟨⟨r, hfaithful.1.symm.trans hask⟩, hanswered hfaithful.2⟩

/-- A run that stopped did so at a question that is not answered. -/
theorem exists_error_of_asking (hfaithful : Faithful answers qs cache)
    (h : (asking answers qs cache).2 = none) : ∃ q ∈ qs, ∀ r, fresh answers q ≠ .ok r := by
  induction qs generalizing cache with
  | nil => cases h
  | cons q qs ih =>
      cases hask : (ask answers q cache).1 with
      | error e =>
          rw [Faithful, asking_cons_of_error hask, List.forall_mem_singleton] at hfaithful
          refine ⟨q, List.mem_cons_self, fun r hr => ?_⟩
          rw [hask, hr] at hfaithful
          cases hfaithful
      | ok r =>
          rw [asking_cons_of_ok hask] at h
          rw [Faithful, asking_cons_of_ok hask, List.forall_mem_cons] at hfaithful
          obtain ⟨p, hp, herror⟩ := ih hfaithful.2 h
          exact ⟨p, List.mem_cons_of_mem q hp, herror⟩

end Memo
