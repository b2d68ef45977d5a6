import Mathlib.Tactic
import Mathlib.Data.List.Lex

set_option autoImplicit false

/-! # Timestamps as texts and as instants

A timestamp of RFC 3339: a date, a time of the day, a fraction of any number of digits and a zone.
Its text can be compared as a text, and the instant that it denotes as a number. In one zone both
orders agree to the second (`clockText_lt_iff`); below, a text that ends after fewer digits is the
greater one, whatever follows in the other (`tail_misordered_iff`). -/

namespace Timestamp

/-! ## Digits -/

/-- A decimal digit. -/
def digitChar (d : Nat) : Char := Char.ofNat (48 + d)

theorem digitChar_lt_iff {a b : Nat} (ha : a < 10) (hb : b < 10) :
    digitChar a < digitChar b ↔ a < b := by
  have hall : ∀ a b : Fin 10, digitChar a < digitChar b ↔ (a : Nat) < b := by decide
  exact hall ⟨a, ha⟩ ⟨b, hb⟩

/-- The last digits of a number. -/
def digits : Nat → Nat → List Char
  | 0, _ => []
  | width + 1, n => digits width (n / 10) ++ [digitChar (n % 10)]

@[simp] theorem length_digits (width n : Nat) : (digits width n).length = width := by
  induction width generalizing n with
  | zero => rfl
  | succ width ih => rw [digits, List.length_append, ih]; rfl

/-- Texts of one length are compared first. -/
theorem append_lt_append_iff {α : Type} [LT α] {xs ys us vs : List α}
    (h : xs.length = ys.length) : xs ++ us < ys ++ vs ↔ xs < ys ∨ xs = ys ∧ us < vs := by
  induction xs generalizing ys with
  | nil =>
      obtain rfl := List.length_eq_zero_iff.1 h.symm
      simp
  | cons x xs ih =>
      cases ys with
      | nil => cases h
      | cons y ys =>
          rw [List.cons_append, List.cons_append, List.cons_lt_cons_iff, List.cons_lt_cons_iff,
            ih (Nat.succ.inj h)]
          constructor
          · rintro (hlt | ⟨rfl, hlt | ⟨rfl, hlt⟩⟩)
            · exact .inl (.inl hlt)
            · exact .inl (.inr ⟨rfl, hlt⟩)
            · exact .inr ⟨rfl, hlt⟩
          · rintro ((hlt | ⟨rfl, hlt⟩) | ⟨heq, hlt⟩)
            · exact .inl hlt
            · exact .inr ⟨rfl, .inl hlt⟩
            · obtain ⟨rfl, rfl⟩ := List.cons.inj heq
              exact .inr ⟨rfl, .inr ⟨rfl, hlt⟩⟩

theorem digits_lt_iff (width : Nat) : ∀ {a b : Nat}, a < 10 ^ width → b < 10 ^ width →
    (digits width a < digits width b ↔ a < b) := by
  induction width with
  | zero =>
      intro a b ha hb
      have : a = b := by omega
      subst this
      simp [digits]
  | succ width ih =>
      intro a b ha hb
      rw [Nat.pow_succ] at ha hb
      have ha' : a / 10 < 10 ^ width := by omega
      have hb' : b / 10 < 10 ^ width := by omega
      have heq : digits width (a / 10) = digits width (b / 10) ↔ a / 10 = b / 10 := by
        constructor
        · intro h
          have hab := (ih ha' hb').not.1 (h ▸ List.lt_irrefl _)
          have hba := (ih hb' ha').not.1 (h ▸ List.lt_irrefl _)
          omega
        · exact fun h => by rw [h]
      have hlast := digitChar_lt_iff (Nat.mod_lt a (by omega : 0 < 10)) (Nat.mod_lt b (by omega))
      rw [digits, digits, append_lt_append_iff (by simp), ih ha' hb', heq,
        List.cons_lt_cons_iff, hlast]
      simp only [List.lt_irrefl, and_false, or_false]
      omega

theorem digitChar_inj {a b : Nat} (ha : a < 10) (hb : b < 10) (h : digitChar a = digitChar b) :
    a = b := by
  have hab := (digitChar_lt_iff ha hb).not.1 (h ▸ Char.lt_irrefl _)
  have hba := (digitChar_lt_iff hb ha).not.1 (h ▸ Char.lt_irrefl _)
  omega

theorem digits_inj {width a b : Nat} (ha : a < 10 ^ width) (hb : b < 10 ^ width)
    (h : digits width a = digits width b) : a = b := by
  have hab := (digits_lt_iff width ha hb).not.1 (h ▸ List.lt_irrefl _)
  have hba := (digits_lt_iff width hb ha).not.1 (h ▸ List.lt_irrefl _)
  omega

/-! ## The clock -/

/-- The numbers of a date and a time, each with its width and the character after it. -/
abbrev Layout := List (Nat × List Char)

/-- Numbers in a layout. -/
def layoutText : Layout → List Nat → List Char
  | (width, after) :: rest, n :: ns => digits width n ++ (after ++ layoutText rest ns)
  | _, _ => []

/-- Every number has its place and fits in it. -/
inductive Fits : Layout → List Nat → Prop
  | nil : Fits [] []
  | cons {width after rest n ns} : n < 10 ^ width → Fits rest ns →
      Fits ((width, after) :: rest) (n :: ns)

theorem length_layoutText {layout : Layout} {as bs : List Nat} (ha : Fits layout as)
    (hb : Fits layout bs) : (layoutText layout as).length = (layoutText layout bs).length := by
  induction ha generalizing bs with
  | nil => cases hb; rfl
  | cons _ _ ih =>
      cases hb with
      | cons _ hb => simp [layoutText, ih hb]

/-- **Numbers of fixed width are ordered like their texts.** -/
theorem layoutText_lt_iff {layout : Layout} {as bs : List Nat} (ha : Fits layout as)
    (hb : Fits layout bs) : layoutText layout as < layoutText layout bs ↔ as < bs := by
  induction ha generalizing bs with
  | nil => cases hb; simp [layoutText]
  | @cons width after rest a as hfit ha ih =>
      cases hb with
      | @cons _ _ _ b bs hfit' hb =>
          have heq : digits width a = digits width b ↔ a = b :=
            ⟨digits_inj hfit hfit', fun h => by rw [h]⟩
          rw [layoutText, layoutText, append_lt_append_iff (by simp), digits_lt_iff width hfit hfit',
            append_lt_append_iff rfl, heq, List.cons_lt_cons_iff, ih hb]
          simp only [List.lt_irrefl, true_and, false_or]

/-! ## Dates -/

def isLeap (year : Nat) : Bool := year % 4 = 0 && (year % 100 ≠ 0 || year % 400 = 0)

/-- The days of a year before a month. -/
def daysBeforeMonth (year month : Nat) : Nat :=
  [0, 31, 59, 90, 120, 151, 181, 212, 243, 273, 304, 334].getD (month - 1) 0 +
    if isLeap year && 2 < month then 1 else 0

/-- The days before a year. -/
def daysBeforeYear (year : Nat) : Nat :=
  365 * year + (year + 3) / 4 - (year + 99) / 100 + (year + 399) / 400

def daysInMonth (year month : Nat) : Nat :=
  if month = 2 then (if isLeap year then 29 else 28)
  else if month = 4 ∨ month = 6 ∨ month = 9 ∨ month = 11 then 30 else 31

theorem div_succ (n k : Nat) (hk : 0 < k) :
    (n + 1 + (k - 1)) / k = (n + (k - 1)) / k + if n % k = 0 then 1 else 0 := by
  have hlast : n + (k - 1) + 1 = n + k := by omega
  rw [Nat.add_right_comm, Nat.succ_div, hlast]
  simp [Nat.dvd_iff_mod_eq_zero]

theorem daysBeforeYear_succ (year : Nat) :
    daysBeforeYear (year + 1) = daysBeforeYear year + if isLeap year then 366 else 365 := by
  have hquarter := div_succ year 4 (by omega)
  have hcentury := div_succ year 100 (by omega)
  have hera := div_succ year 400 (by omega)
  have hle : (year + 99) / 100 ≤ (year + 3) / 4 := by omega
  have h100 : year % 100 = 0 → year % 4 = 0 := by omega
  have h400 : year % 400 = 0 → year % 100 = 0 := by omega
  unfold daysBeforeYear isLeap
  simp only [Nat.reduceSub] at hquarter hcentury hera
  rw [hquarter, hcentury, hera]
  generalize (year + 3) / 4 = q at hle ⊢
  generalize (year + 99) / 100 = c at hle ⊢
  generalize (year + 399) / 400 = e
  by_cases hq : year % 4 = 0
  · by_cases hc : year % 100 = 0
    · by_cases he : year % 400 = 0
      · simp only [hq, hc, he, decide_true, Bool.true_and, Bool.or_true, if_true]
        omega
      · simp [hq, hc, he]
        omega
    · have he : ¬year % 400 = 0 := fun he => hc (h400 he)
      simp [hq, hc, he]
      omega
  · have hc : ¬year % 100 = 0 := fun hc => hq (h100 hc)
    have he : ¬year % 400 = 0 := fun he => hc (h400 he)
    simp [hq, hc, he]
    omega

theorem daysBeforeYear_lt {a b : Nat} (h : a < b) :
    daysBeforeYear a + (if isLeap a then 366 else 365) ≤ daysBeforeYear b := by
  induction b, h using Nat.le_induction with
  | base => exact (daysBeforeYear_succ a).ge
  | succ b _ ih =>
      rw [daysBeforeYear_succ]
      omega

theorem daysBeforeMonth_lt (year : Nat) {a b : Nat} (ha : 1 ≤ a) (h : a < b) (hb : b ≤ 12) :
    daysBeforeMonth year a + daysInMonth year a ≤ daysBeforeMonth year b := by
  unfold daysBeforeMonth daysInMonth
  cases isLeap year <;> interval_cases b <;> interval_cases a <;> decide

theorem daysBeforeMonth_le (year : Nat) {month : Nat} (h : 1 ≤ month) (h' : month ≤ 12) :
    daysBeforeMonth year month + daysInMonth year month ≤ if isLeap year then 366 else 365 := by
  unfold daysBeforeMonth daysInMonth
  cases isLeap year <;> interval_cases month <;> decide

/-! ## Timestamps -/

/-- Behind UTC or not, by hours and minutes. -/
structure Offset where
  behind : Bool
  hours : Fin 24
  minutes : Fin 60
deriving DecidableEq, Repr

/-- A timestamp. Without an offset its zone is spelled `Z`. -/
structure Stamp where
  year : Nat
  month : Nat
  day : Nat
  hour : Nat
  minute : Nat
  second : Nat
  fraction : List (Fin 10)
  offset : Option Offset
  year_lt : year < 10000
  month_pos : 1 ≤ month
  month_le : month ≤ 12
  day_pos : 1 ≤ day
  day_le : day ≤ daysInMonth year month
  hour_lt : hour < 24
  minute_lt : minute < 60
  second_lt : second < 60
deriving DecidableEq

namespace Stamp

def clockLayout : Layout :=
  [(4, ['-']), (2, ['-']), (2, ['T']), (2, [':']), (2, [':']), (2, [])]

/-- The date and the time of the day. -/
def clock (s : Stamp) : List Nat := [s.year, s.month, s.day, s.hour, s.minute, s.second]

def fractionText : List (Fin 10) → List Char
  | [] => []
  | ds => '.' :: ds.map fun d : Fin 10 => digitChar d

def zoneText : Option Offset → List Char
  | none => ['Z']
  | some o => (if o.behind then '-' else '+') :: (digits 2 o.hours ++ ':' :: digits 2 o.minutes)

/-- The text of a timestamp. -/
def text (s : Stamp) : String :=
  String.ofList (layoutText clockLayout s.clock ++ (fractionText s.fraction ++ zoneText s.offset))

/-- The value of the digits after a decimal point. -/
def fractionValue : List (Fin 10) → ℚ
  | [] => 0
  | d :: ds => ((d : Nat) + fractionValue ds) / 10

/-- The seconds that the clock shows. -/
def clockSeconds (s : Stamp) : Nat :=
  ((daysBeforeYear s.year + daysBeforeMonth s.year s.month + s.day) * 24 + s.hour) * 3600 +
    s.minute * 60 + s.second

/-- The seconds by which the clock is ahead of UTC. -/
def ahead : Option Offset → Int
  | none => 0
  | some o => (if o.behind then -1 else 1) * ((o.hours : Nat) * 3600 + (o.minutes : Nat) * 60)

/-- The instant, in seconds. -/
def instant (s : Stamp) : ℚ :=
  (s.clockSeconds : ℚ) - (ahead s.offset : ℤ) + fractionValue s.fraction

theorem fits_clock (s : Stamp) : Fits clockLayout s.clock := by
  have hday : s.day ≤ 31 := by
    have hle := s.day_le
    unfold daysInMonth at hle
    split_ifs at hle <;> omega
  have hmonth := s.month_le
  have hhour := s.hour_lt
  have hminute := s.minute_lt
  have hsecond := s.second_lt
  exact .cons s.year_lt (.cons (by omega) (.cons (by omega) (.cons (by omega) (.cons (by omega)
    (.cons (by omega) .nil)))))

/-- **The clock's text is ordered like the clock.** -/
theorem clockText_lt_iff (a b : Stamp) :
    layoutText clockLayout a.clock < layoutText clockLayout b.clock ↔ a.clock < b.clock :=
  layoutText_lt_iff a.fits_clock b.fits_clock

/-- **Later clocks show more seconds.** -/
theorem clockSeconds_lt {a b : Stamp} (h : a.clock < b.clock) : a.clockSeconds < b.clockSeconds := by
  have hdate : ∀ s : Stamp, daysBeforeYear s.year < daysBeforeYear s.year +
      daysBeforeMonth s.year s.month + s.day ∧ daysBeforeYear s.year + daysBeforeMonth s.year s.month +
        s.day ≤ daysBeforeYear s.year + if isLeap s.year then 366 else 365 := by
    intro s
    have hmonth := daysBeforeMonth_le s.year s.month_pos s.month_le
    have hpos := s.day_pos
    have hday := s.day_le
    omega
  have ha := hdate a
  have hb := hdate b
  have hha := a.hour_lt
  have hhb := b.hour_lt
  have hma := a.minute_lt
  have hmb := b.minute_lt
  have hsa := a.second_lt
  have hsb := b.second_lt
  simp only [clock, List.cons_lt_cons_iff, List.lt_irrefl, and_false, or_false] at h
  unfold clockSeconds
  rcases h with hyear | ⟨hyear, hmonth | ⟨hmonth, hrest⟩⟩
  · have hnext := daysBeforeYear_lt hyear
    omega
  · have hnext := daysBeforeMonth_lt a.year a.month_pos hmonth b.month_le
    have hday := a.day_le
    have hpos := b.day_pos
    rw [hyear] at hnext hday ⊢
    omega
  · rw [hyear, hmonth]
    omega

theorem clockSeconds_eq_iff {a b : Stamp} : a.clockSeconds = b.clockSeconds ↔ a.clock = b.clock := by
  constructor
  · intro h
    rcases lt_trichotomy a.clock b.clock with hlt | heq | hlt
    · exact absurd h (clockSeconds_lt hlt).ne
    · exact heq
    · exact absurd h (clockSeconds_lt hlt).ne'
  · intro h
    simp only [clock, List.cons.injEq, and_true] at h
    obtain ⟨hyear, hmonth, hday, hhour, hminute, hsecond⟩ := h
    unfold clockSeconds
    rw [hyear, hmonth, hday, hhour, hminute, hsecond]

/-! ## Fractions -/

theorem fractionValue_nonneg (ds : List (Fin 10)) : 0 ≤ fractionValue ds := by
  induction ds with
  | nil => exact le_refl _
  | cons d ds ih =>
      rw [fractionValue]
      positivity

theorem fractionValue_lt_one (ds : List (Fin 10)) : fractionValue ds < 1 := by
  induction ds with
  | nil => exact zero_lt_one
  | cons d ds ih =>
      have hd : ((d : Nat) : ℚ) ≤ 9 := by exact_mod_cast Nat.le_of_lt_succ d.isLt
      rw [fractionValue, div_lt_one (by norm_num)]
      linarith

theorem fractionValue_pos_iff (ds : List (Fin 10)) : 0 < fractionValue ds ↔ ∃ d ∈ ds, d ≠ 0 := by
  induction ds with
  | nil => simp [fractionValue]
  | cons d ds ih =>
      have hrest := fractionValue_nonneg ds
      rw [fractionValue, List.exists_mem_cons_iff, ← ih]
      constructor
      · intro h
        by_cases hd : d = 0
        · subst hd
          right
          simpa using h
        · exact .inl hd
      · rintro (hd | hds)
        · have hpos : (0 : ℚ) < (d : Nat) := by
            exact_mod_cast Nat.pos_of_ne_zero fun hzero => hd (Fin.ext hzero)
          positivity
        · positivity

/-- A fraction that is a continuation of the other one and greater. -/
def Extends (f g : List (Fin 10)) : Prop := ∃ rest, f = g ++ rest ∧ ∃ d ∈ rest, d ≠ 0

theorem extends_nil_iff (f : List (Fin 10)) : Extends f [] ↔ 0 < fractionValue f := by
  rw [fractionValue_pos_iff]
  constructor
  · rintro ⟨rest, rfl, h⟩
    exact h
  · exact fun h => ⟨f, rfl, h⟩

theorem extends_cons_iff (a b : Fin 10) (f g : List (Fin 10)) :
    Extends (a :: f) (b :: g) ↔ a = b ∧ Extends f g := by
  constructor
  · rintro ⟨rest, heq, h⟩
    rw [List.cons_append] at heq
    obtain ⟨rfl, rfl⟩ := List.cons.inj heq
    exact ⟨rfl, rest, rfl, h⟩
  · rintro ⟨rfl, rest, rfl, h⟩
    exact ⟨rest, rfl, h⟩

theorem digitChar_lt_Z (d : Fin 10) : digitChar d < 'Z' := by
  revert d
  decide

/-- **Digits before a `Z`** are ordered against their values exactly where the lesser text continues
    the greater one. -/
theorem digits_misordered_iff (f g : List (Fin 10)) :
    ((f.map fun d : Fin 10 => digitChar d) ++ ['Z'] < (g.map fun d : Fin 10 => digitChar d) ++ ['Z'] ∧
      fractionValue g < fractionValue f) ↔ Extends f g := by
  induction f generalizing g with
  | nil =>
      constructor
      · rintro ⟨-, h⟩
        exact absurd (fractionValue_nonneg g) (not_le.2 h)
      · rintro ⟨rest, heq, d, hd, -⟩
        obtain ⟨-, rfl⟩ := List.append_eq_nil_iff.1 heq.symm
        cases hd
  | cons a f ih =>
      cases g with
      | nil =>
          rw [extends_nil_iff, List.map_cons, List.map_nil, List.cons_append, List.nil_append,
            List.cons_lt_cons_iff]
          exact ⟨fun h => h.2, fun h => ⟨.inl (digitChar_lt_Z a), h⟩⟩
      | cons b g =>
          rw [extends_cons_iff, ← ih g, List.map_cons, List.map_cons, List.cons_append,
            List.cons_append, List.cons_lt_cons_iff, digitChar_lt_iff a.isLt b.isLt, fractionValue,
            fractionValue, div_lt_div_iff_of_pos_right (by norm_num)]
          have hsame : digitChar a = digitChar b ↔ a = b :=
            ⟨fun heq => Fin.ext (digitChar_inj a.isLt b.isLt heq), fun heq => by rw [heq]⟩
          rw [hsame]
          constructor
          · rintro ⟨hlt | ⟨rfl, htext⟩, hvalue⟩
            · -- a greater digit is not made up for by what follows
              have hdigit : ((a : Nat) : ℚ) + 1 ≤ (b : Nat) := by exact_mod_cast hlt
              have hf := fractionValue_lt_one f
              have hg := fractionValue_nonneg g
              linarith
            · exact ⟨rfl, htext, by linarith⟩
          · rintro ⟨rfl, htext, hvalue⟩
            exact ⟨.inr ⟨rfl, htext⟩, by linarith⟩

theorem fractionText_cons (d : Fin 10) (ds : List (Fin 10)) :
    fractionText (d :: ds) = '.' :: (d :: ds).map fun d : Fin 10 => digitChar d := rfl

/-- The same with the decimal point, which is there when there are digits. -/
theorem tail_misordered_iff (f g : List (Fin 10)) :
    (fractionText f ++ ['Z'] < fractionText g ++ ['Z'] ∧ fractionValue g < fractionValue f) ↔
      Extends f g := by
  rw [← digits_misordered_iff f g]
  refine and_congr_left fun hvalue => ?_
  cases f with
  | nil => exact absurd (fractionValue_nonneg g) (not_le.2 hvalue)
  | cons a f =>
      cases g with
      | nil =>
          have hpoint : '.' < 'Z' := by decide
          simp only [fractionText, List.map_cons, List.map_nil, List.cons_append, List.nil_append,
            List.cons_lt_cons_iff, hpoint, digitChar_lt_Z a, true_or]
      | cons b g =>
          rw [fractionText_cons, fractionText_cons, List.cons_append, List.cons_append,
            List.cons_lt_cons_iff]
          simp

/-! ## Texts and instants -/

theorem clock_eq_of_text {a b : Stamp}
    (h : layoutText clockLayout a.clock = layoutText clockLayout b.clock) : a.clock = b.clock := by
  rcases lt_trichotomy a.clock b.clock with hlt | heq | hlt
  · exact absurd ((clockText_lt_iff a b).2 hlt) (h ▸ List.lt_irrefl _)
  · exact heq
  · exact absurd ((clockText_lt_iff b a).2 hlt) (h ▸ List.lt_irrefl _)

theorem zoneText_inj {o p : Option Offset} (h : zoneText o = zoneText p) : o = p := by
  cases o with
  | none =>
      cases p with
      | none => rfl
      | some p =>
          rw [zoneText, zoneText] at h
          have hhead := (List.cons.inj h).1
          split_ifs at hhead <;> simp at hhead
  | some o =>
      cases p with
      | none =>
          rw [zoneText, zoneText] at h
          have hhead := (List.cons.inj h).1
          split_ifs at hhead <;> simp at hhead
      | some p =>
          rw [zoneText, zoneText] at h
          obtain ⟨hsign, hrest⟩ := List.cons.inj h
          obtain ⟨hhours, hminutes⟩ := List.append_inj hrest (by simp)
          have hh : o.hours = p.hours :=
            Fin.ext (digits_inj (by omega) (by omega) hhours)
          have hm : o.minutes = p.minutes :=
            Fin.ext (digits_inj (by omega) (by omega) (List.cons.inj hminutes).2)
          have hb : o.behind = p.behind := by
            cases ho : o.behind <;> cases hp : p.behind <;> simp [ho, hp] at hsign <;> rfl
          cases o
          cases p
          simp only at hh hm hb
          rw [hh, hm, hb]

/-- A zone does not begin with a digit or a point. -/
theorem zoneText_head (o : Option Offset) : ∃ c cs, zoneText o = c :: cs ∧ c ≠ '.' ∧
    ∀ d : Fin 10, digitChar d ≠ c := by
  cases o with
  | none => exact ⟨'Z', [], rfl, by decide, by decide⟩
  | some o =>
      refine ⟨_, _, rfl, ?_, ?_⟩
      · split_ifs <;> decide
      · split_ifs <;> decide

theorem digitsZone_inj {f g : List (Fin 10)} {o p : Option Offset}
    (h : (f.map fun d : Fin 10 => digitChar d) ++ zoneText o
      = (g.map fun d : Fin 10 => digitChar d) ++ zoneText p) : f = g ∧ o = p := by
  induction f generalizing g with
  | nil =>
      cases g with
      | nil => exact ⟨rfl, zoneText_inj h⟩
      | cons b g =>
          obtain ⟨c, cs, hzone, -, hdigit⟩ := zoneText_head o
          rw [hzone] at h
          exact absurd (List.cons.inj h).1.symm (hdigit b)
  | cons a f ih =>
      cases g with
      | nil =>
          obtain ⟨c, cs, hzone, -, hdigit⟩ := zoneText_head p
          rw [hzone] at h
          exact absurd (List.cons.inj h).1 (hdigit a)
      | cons b g =>
          obtain ⟨hhead, hrest⟩ := List.cons.inj h
          obtain ⟨rfl, rfl⟩ := ih hrest
          exact ⟨by rw [Fin.ext (digitChar_inj a.isLt b.isLt hhead)], rfl⟩

theorem tail_inj {f g : List (Fin 10)} {o p : Option Offset}
    (h : fractionText f ++ zoneText o = fractionText g ++ zoneText p) : f = g ∧ o = p := by
  cases f with
  | nil =>
      cases g with
      | nil => exact ⟨rfl, zoneText_inj h⟩
      | cons b g =>
          obtain ⟨c, cs, hzone, hpoint, -⟩ := zoneText_head o
          rw [hzone] at h
          exact absurd (List.cons.inj h).1 hpoint
  | cons a f =>
      cases g with
      | nil =>
          obtain ⟨c, cs, hzone, hpoint, -⟩ := zoneText_head p
          rw [hzone] at h
          exact absurd (List.cons.inj h).1.symm hpoint
      | cons b g =>
          rw [fractionText_cons, fractionText_cons] at h
          exact digitsZone_inj (List.cons.inj h).2

/-- **A text denotes one instant.** -/
theorem instant_eq_of_text {a b : Stamp} (h : a.text = b.text) : a.instant = b.instant := by
  have hchars : a.text.toList = b.text.toList := by rw [h]
  rw [text, text, String.toList_ofList, String.toList_ofList] at hchars
  obtain ⟨hclock, htail⟩ :=
    List.append_inj hchars (length_layoutText a.fits_clock b.fits_clock)
  obtain ⟨hfraction, hoffset⟩ := tail_inj htail
  rw [instant, instant, hfraction, hoffset, clockSeconds_eq_iff.2 (clock_eq_of_text hclock)]

/-- **Two timestamps in UTC** are ordered as texts against their instants exactly when their clocks
    agree and the fraction of the later one continues that of the earlier. -/
theorem misordered_iff {a b : Stamp} (ha : a.offset = none) (hb : b.offset = none) :
    (a.text < b.text ∧ b.instant < a.instant) ↔ a.clock = b.clock ∧ Extends a.fraction b.fraction := by
  have hlength := length_layoutText a.fits_clock b.fits_clock
  have htext : a.text < b.text ↔ a.clock < b.clock ∨ layoutText clockLayout a.clock =
      layoutText clockLayout b.clock ∧ fractionText a.fraction ++ ['Z'] <
        fractionText b.fraction ++ ['Z'] := by
    rw [← clockText_lt_iff, ← append_lt_append_iff hlength, String.lt_iff, text, text, ha, hb,
      String.toList_ofList, String.toList_ofList]
    rfl
  have hinstant : b.instant < a.instant ↔ (b.clockSeconds : ℚ) + fractionValue b.fraction <
      a.clockSeconds + fractionValue a.fraction := by
    rw [instant, instant, ha, hb]
    simp [ahead]
  rw [htext, hinstant, ← tail_misordered_iff]
  constructor
  · rintro ⟨hclock | ⟨hclock, htail⟩, hlt⟩
    · -- a second is more than any fraction
      have hseconds : ((a.clockSeconds : ℚ) + 1) ≤ b.clockSeconds := by
        exact_mod_cast clockSeconds_lt hclock
      have hfa := fractionValue_lt_one a.fraction
      have hfb := fractionValue_nonneg b.fraction
      linarith
    · have hsame := clock_eq_of_text hclock
      have hseconds := clockSeconds_eq_iff.2 hsame
      rw [hseconds] at hlt
      exact ⟨hsame, htail, by linarith⟩
  · rintro ⟨hsame, htail, hvalue⟩
    have hseconds := clockSeconds_eq_iff.2 hsame
    refine ⟨.inr ⟨by rw [hsame], htail⟩, ?_⟩
    rw [hseconds]
    linarith

end Stamp

end Timestamp
