import Mathlib.Tactic

set_option autoImplicit false

/-! # Fixed-window rate limits

A counter admits at most `limit` requests in a window of length `length` that starts with the
first request after the last window ended. The clock does not run backwards.

A window holds at most `limit` requests by construction. Windows start at arbitrary times, but a
window starts no earlier than the last one ends, so an interval as long as a window meets at most
two of them: no such interval holds more than `2 * limit` requests. -/

namespace FixedWindow

/-- The counter of a subject: when its window started, and how many requests it admitted. -/
structure Counter where
  start : Int
  count : Int
deriving DecidableEq, Repr

variable {length limit : Int}

/-- A request at a time: the counter after it, or `none` when it is refused. -/
def request (length limit now : Int) : Option Counter → Option Counter
  | none => some ⟨now, 1⟩
  | some c =>
    if ¬ now < c.start + length then some ⟨now, 1⟩
    else if c.count ≥ limit then none
    else some ⟨c.start, c.count + 1⟩

/-- The counter after admitted requests, or `none` when one of them is refused. -/
def admitted (length limit : Int) : Option Counter → List Int → Option (Option Counter)
  | c, [] => some c
  | c, now :: rest => (request length limit now c).bind fun c' => admitted length limit (some c') rest

/-! ## The window of each request -/

/-- An admitted request with the start of the window that counted it. -/
structure Stamp where
  now : Int
  start : Int

/-- What holds of the requests admitted so far: each lies in its window, windows do not overlap,
    no window holds more than the limit, and the counter is that of the last window. -/
structure Ledger (length limit : Int) (stamps : List Stamp) (counter : Option Counter) : Prop where
  inside : ∀ s ∈ stamps, s.start ≤ s.now ∧ s.now < s.start + length
  apart : ∀ s ∈ stamps, ∀ t ∈ stamps, s.start ≠ t.start →
    s.start + length ≤ t.start ∨ t.start + length ≤ s.start
  bounded : ∀ start, (stamps.countP fun s => s.start = start : Int) ≤ limit
  fresh : counter = none → stamps = []
  last : ∀ c, counter = some c →
    (stamps.countP fun s => s.start = c.start : Int) = c.count ∧
      (∃ s ∈ stamps, s.start = c.start) ∧ ∀ s ∈ stamps, s.start ≤ c.start

theorem Ledger.empty (hlimit : 0 < limit) : Ledger length limit [] none where
  inside := by simp
  apart := by simp
  bounded := by
    intro start
    simp only [List.countP_nil]
    omega
  fresh := fun _ => rfl
  last := by simp

/-- A request that opens a window. -/
theorem Ledger.opened {stamps : List Stamp} {counter : Option Counter} {now : Int}
    (h : Ledger length limit stamps counter) (hlength : 0 < length) (hlimit : 0 < limit)
    (hnew : ∀ s ∈ stamps, s.start + length ≤ now) :
    Ledger length limit (stamps ++ [⟨now, now⟩]) (some ⟨now, 1⟩) := by
  -- every window so far is over, so none of them starts now
  have hzero : stamps.countP (fun s => decide (s.start = now)) = 0 := by
    rw [List.countP_eq_zero]
    intro s hs
    have := hnew s hs
    simp only [decide_eq_true_eq]
    omega
  refine ⟨?_, ?_, ?_, by simp, ?_⟩
  · intro s hs
    rcases List.mem_append.1 hs with hs | hs
    · exact h.inside s hs
    · obtain rfl := List.mem_singleton.1 hs
      exact ⟨le_refl _, by show now < now + length; omega⟩
  · intro s hs t ht hne
    rcases List.mem_append.1 hs with hs | hs
    · rcases List.mem_append.1 ht with ht | ht
      · exact h.apart s hs t ht hne
      · obtain rfl := List.mem_singleton.1 ht
        exact .inl (hnew s hs)
    · obtain rfl := List.mem_singleton.1 hs
      rcases List.mem_append.1 ht with ht | ht
      · exact .inr (hnew t ht)
      · obtain rfl := List.mem_singleton.1 ht
        exact absurd rfl hne
  · intro start
    have hold := h.bounded start
    rw [List.countP_append, List.countP_singleton]
    by_cases hs : now = start
    · subst hs
      simp only [hzero, decide_true, if_true]
      omega
    · simp only [hs, decide_false, Bool.false_eq_true, if_false]
      omega
  · intro c hc
    obtain rfl := Option.some.inj hc
    refine ⟨?_, ⟨⟨now, now⟩, by simp, rfl⟩, ?_⟩
    · rw [List.countP_append, hzero]
      simp
    · intro s hs
      rcases List.mem_append.1 hs with hs | hs
      · have := hnew s hs
        show s.start ≤ now
        omega
      · obtain rfl := List.mem_singleton.1 hs
        exact le_refl _

/-- A request that the running window counts. -/
theorem Ledger.counted {stamps : List Stamp} {c : Counter} {now : Int}
    (h : Ledger length limit stamps (some c)) (hinside : c.start ≤ now ∧ now < c.start + length)
    (hroom : c.count < limit) :
    Ledger length limit (stamps ++ [⟨now, c.start⟩]) (some ⟨c.start, c.count + 1⟩) := by
  obtain ⟨hcount, ⟨w, hw, hwstart⟩, hlast⟩ := h.last c rfl
  refine ⟨?_, ?_, ?_, by simp, ?_⟩
  · intro s hs
    rcases List.mem_append.1 hs with hs | hs
    · exact h.inside s hs
    · obtain rfl := List.mem_singleton.1 hs
      exact hinside
  · -- the new request is in a window that is there already
    intro s hs t ht hne
    rcases List.mem_append.1 hs with hs | hs
    · rcases List.mem_append.1 ht with ht | ht
      · exact h.apart s hs t ht hne
      · obtain rfl := List.mem_singleton.1 ht
        rw [← hwstart] at hne ⊢
        exact h.apart s hs w hw hne
    · obtain rfl := List.mem_singleton.1 hs
      rcases List.mem_append.1 ht with ht | ht
      · rw [← hwstart] at hne ⊢
        exact h.apart w hw t ht hne
      · obtain rfl := List.mem_singleton.1 ht
        exact absurd rfl hne
  · intro start
    have hold := h.bounded start
    rw [List.countP_append, List.countP_singleton]
    by_cases hs : c.start = start
    · subst hs
      simp only [decide_true, if_true]
      omega
    · simp only [hs, decide_false, Bool.false_eq_true, if_false]
      omega
  · intro c' hc'
    obtain rfl := Option.some.inj hc'
    refine ⟨?_, ⟨⟨now, c.start⟩, by simp, rfl⟩, ?_⟩
    · rw [List.countP_append, List.countP_singleton]
      simp only [decide_true, if_true]
      omega
    · intro s hs
      rcases List.mem_append.1 hs with hs | hs
      · exact hlast s hs
      · obtain rfl := List.mem_singleton.1 hs
        exact le_refl _

/-- **Every admitted request keeps the ledger**, as long as the clock does not run backwards. -/
theorem Ledger.request {stamps : List Stamp} {counter : Option Counter} {now : Int} {c' : Counter}
    (h : Ledger length limit stamps counter) (hlength : 0 < length) (hlimit : 0 < limit)
    (hclock : ∀ s ∈ stamps, s.now ≤ now)
    (hreq : request length limit now counter = some c') :
    ∃ start, Ledger length limit (stamps ++ [⟨now, start⟩]) (some c') := by
  cases counter with
  | none =>
      obtain rfl := Option.some.inj hreq
      refine ⟨now, h.opened hlength hlimit ?_⟩
      simp [h.fresh rfl]
  | some c =>
      obtain ⟨hcount, ⟨w, hw, hwstart⟩, hmax⟩ := h.last c rfl
      unfold FixedWindow.request at hreq
      dsimp only at hreq
      by_cases hrunning : now < c.start + length
      · rw [if_neg (not_not.2 hrunning)] at hreq
        split_ifs at hreq with hfull
        obtain rfl := Option.some.inj hreq
        have hw' := (h.inside w hw).1
        have hnow := hclock w hw
        exact ⟨c.start, h.counted ⟨by omega, by omega⟩ (by omega)⟩
      · rw [if_pos hrunning] at hreq
        obtain rfl := Option.some.inj hreq
        refine ⟨now, h.opened hlength hlimit ?_⟩
        intro s hs
        have := hmax s hs
        omega

/-- Requests admitted one after the other, in the order of their times, extend the ledger. -/
theorem Ledger.extend (hlength : 0 < length) (hlimit : 0 < limit) (times : List Int) :
    ∀ {stamps : List Stamp} {counter counter' : Option Counter},
      Ledger length limit stamps counter →
      (stamps.map Stamp.now ++ times).Pairwise (· ≤ ·) →
      admitted length limit counter times = some counter' →
      ∃ more, Ledger length limit (stamps ++ more) counter' ∧ more.map Stamp.now = times := by
  induction times with
  | nil =>
      intro stamps counter counter' h _ hadm
      obtain rfl := Option.some.inj hadm
      exact ⟨[], by simpa using h, rfl⟩
  | cons now times ih =>
      intro stamps counter counter' h hsorted hadm
      obtain ⟨c', hreq, hrest⟩ := Option.bind_eq_some_iff.1 hadm
      have hclock : ∀ s ∈ stamps, s.now ≤ now := by
        intro s hs
        exact (List.pairwise_append.1 hsorted).2.2 s.now (List.mem_map.2 ⟨s, hs, rfl⟩) now (by simp)
      obtain ⟨start, hnext⟩ := h.request hlength hlimit hclock hreq
      obtain ⟨more, hmore, htimes⟩ := ih hnext (by simpa using hsorted) hrest
      refine ⟨⟨now, start⟩ :: more, by simpa using hmore, by simp [htimes]⟩

/-! ## Bounds -/

theorem countP_times (stamps : List Stamp) {times : List Int} (h : stamps.map Stamp.now = times)
    (p : Int → Bool) : times.countP p = stamps.countP fun s => p s.now := by
  rw [← h, List.countP_map]
  rfl

theorem countP_or_le {α : Type} (p q : α → Bool) (xs : List α) :
    xs.countP (fun x => p x || q x) ≤ xs.countP p + xs.countP q := by
  induction xs with
  | nil => simp
  | cons x xs ih =>
      simp only [List.countP_cons]
      cases p x <;> cases q x <;> simp <;> omega

/-- The requests of a window that some request was counted in. -/
theorem Ledger.count_window_le {stamps : List Stamp} {counter : Option Counter}
    (h : Ledger length limit stamps counter) {w : Stamp} (hw : w ∈ stamps) :
    (stamps.countP fun s => w.start ≤ s.now && s.now < w.start + length : Int) ≤ limit := by
  refine le_trans ?_ (h.bounded w.start)
  have hle : stamps.countP (fun s => w.start ≤ s.now && s.now < w.start + length)
      ≤ stamps.countP fun s => s.start = w.start := by
    apply List.countP_mono_left
    intro s hs hin
    simp only [Bool.and_eq_true, decide_eq_true_eq] at hin ⊢
    by_contra hne
    have := h.inside s hs
    rcases h.apart s hs w hw hne with hbefore | hafter
    · omega
    · omega
  exact_mod_cast hle

/-- An interval as long as a window meets at most two windows. -/
theorem Ledger.two_windows {stamps : List Stamp} {counter : Option Counter}
    (h : Ledger length limit stamps counter) {t : Int} {u v s : Stamp} (hu : u ∈ stamps)
    (hv : v ∈ stamps) (hs : s ∈ stamps) (hut : t ≤ u.now ∧ u.now ≤ t + length)
    (hvt : t ≤ v.now ∧ v.now ≤ t + length) (hst : t ≤ s.now ∧ s.now ≤ t + length)
    (huv : u.start ≠ v.start) : s.start = u.start ∨ s.start = v.start := by
  by_contra hne
  push Not at hne
  have hu' := h.inside u hu
  have hv' := h.inside v hv
  have hs' := h.inside s hs
  have h₁ := h.apart u hu v hv huv
  have h₂ := h.apart s hs u hu hne.1
  have h₃ := h.apart s hs v hv hne.2
  omega

/-- **Sliding bound**: no interval as long as a window holds more than twice the limit. -/
theorem Ledger.count_interval_le {stamps : List Stamp} {counter : Option Counter}
    (h : Ledger length limit stamps counter) (hlimit : 0 < limit) (t : Int) :
    (stamps.countP fun s => t ≤ s.now && s.now ≤ t + length : Int) ≤ 2 * limit := by
  -- an interval as long as a window meets at most two windows, of at most `limit` stamps each
  by_cases hempty : ∃ u ∈ stamps, t ≤ u.now ∧ u.now ≤ t + length
  · obtain ⟨u, hu, hut⟩ := hempty
    by_cases hsecond : ∃ v ∈ stamps, (t ≤ v.now ∧ v.now ≤ t + length) ∧ u.start ≠ v.start
    · obtain ⟨v, hv, hvt, huv⟩ := hsecond
      have hsplit : stamps.countP (fun s => t ≤ s.now && s.now ≤ t + length)
          ≤ stamps.countP (fun s => s.start = u.start) +
            stamps.countP (fun s => s.start = v.start) := by
        have hor : stamps.countP (fun s => t ≤ s.now && s.now ≤ t + length)
            ≤ stamps.countP fun s => decide (s.start = u.start) || decide (s.start = v.start) := by
          apply List.countP_mono_left
          intro s hs hin
          simp only [Bool.and_eq_true, Bool.or_eq_true, decide_eq_true_eq] at hin ⊢
          exact h.two_windows hu hv hs hut hvt hin huv
        exact hor.trans (countP_or_le _ _ stamps)
      have h₁ := h.bounded u.start
      have h₂ := h.bounded v.start
      omega
    · push Not at hsecond
      have hle : stamps.countP (fun s => t ≤ s.now && s.now ≤ t + length)
          ≤ stamps.countP fun s => s.start = u.start := by
        apply List.countP_mono_left
        intro s hs hin
        simp only [Bool.and_eq_true, decide_eq_true_eq] at hin ⊢
        exact (hsecond s hs hin).symm
      have := h.bounded u.start
      omega
  · have hzero : stamps.countP (fun s => t ≤ s.now && s.now ≤ t + length) = 0 := by
      rw [List.countP_eq_zero]
      intro s hs hin
      simp only [Bool.and_eq_true, decide_eq_true_eq] at hin
      exact hempty ⟨s, hs, hin⟩
    omega

end FixedWindow
