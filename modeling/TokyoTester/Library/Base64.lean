import Mathlib.Tactic

set_option autoImplicit false

/-! # Base64 for URLs, without padding

Three bytes are four digits of six bits; one or two bytes that are left are two or three digits.
Decoding skips line breaks, and the bits of the last digit that are left over count for nothing.
A looser decoder takes the digits of either alphabet and skips whatever else it finds. Both invert
encoding (`decode_encode`, `decodeLoose_encode`), and encoded text is made of letters, digits, `-` and
`_` (`isDigit_of_mem_encode`). -/

namespace Base64

/-- The digit of a number below 64. -/
def digit (n : ℕ) : Char :=
  if n < 26 then Char.ofNat (65 + n)
  else if n < 52 then Char.ofNat (71 + n)
  else if n < 62 then Char.ofNat (n - 4)
  else if n = 62 then '-'
  else '_'

/-- The number of a digit. -/
def value (c : Char) : Option ℕ :=
  if 65 ≤ c.toNat ∧ c.toNat ≤ 90 then some (c.toNat - 65)
  else if 97 ≤ c.toNat ∧ c.toNat ≤ 122 then some (c.toNat - 71)
  else if 48 ≤ c.toNat ∧ c.toNat ≤ 57 then some (c.toNat + 4)
  else if c = '-' then some 62
  else if c = '_' then some 63
  else none

/-- The digits of bytes. -/
def encode : List UInt8 → List Char
  | [] => []
  | [a] => [digit (a.toNat / 4), digit (a.toNat % 4 * 16)]
  | [a, b] =>
    [digit (a.toNat / 4), digit (a.toNat % 4 * 16 + b.toNat / 16), digit (b.toNat % 16 * 4)]
  | a :: b :: c :: rest =>
    digit (a.toNat / 4) :: digit (a.toNat % 4 * 16 + b.toNat / 16) ::
      digit (b.toNat % 16 * 4 + c.toNat / 64) :: digit (c.toNat % 64) :: encode rest

/-- The bytes of numbers below 64. -/
def bytes : List ℕ → Option (List UInt8)
  | [] => some []
  | [_] => none
  | [u, v] => some [UInt8.ofNat (u * 4 + v / 16)]
  | [u, v, w] => some [UInt8.ofNat (u * 4 + v / 16), UInt8.ofNat (v % 16 * 16 + w / 4)]
  | u :: v :: w :: x :: rest =>
    (bytes rest).map fun bs =>
      UInt8.ofNat (u * 4 + v / 16) :: UInt8.ofNat (v % 16 * 16 + w / 4) ::
        UInt8.ofNat (w % 4 * 64 + x) :: bs

def isBreak (c : Char) : Bool := c = '\n' || c = '\r'

/-- The bytes of digits, or `none` when some character is no digit or a digit is missing. -/
def decode (cs : List Char) : Option (List UInt8) :=
  ((cs.filter fun c => !isBreak c).mapM value).bind bytes

/-- The number of a digit of either alphabet, `+` and `/` included. -/
def looseValue (c : Char) : Option ℕ :=
  if c = '+' then some 62 else if c = '/' then some 63 else value c

def looseBytes : List ℕ → List UInt8
  | [] => []
  | [_] => []
  | [u, v] => [UInt8.ofNat (u * 4 + v / 16)]
  | [u, v, w] => [UInt8.ofNat (u * 4 + v / 16), UInt8.ofNat (v % 16 * 16 + w / 4)]
  | u :: v :: w :: x :: rest =>
    UInt8.ofNat (u * 4 + v / 16) :: UInt8.ofNat (v % 16 * 16 + w / 4) ::
      UInt8.ofNat (w % 4 * 64 + x) :: looseBytes rest

/-- The bytes of the digits of a text; every other character is skipped. -/
def decodeLoose (cs : List Char) : List UInt8 := looseBytes (cs.filterMap looseValue)

/-- A character of encoded text. -/
def isDigit (c : Char) : Bool := (value c).isSome

/-! ## Digits -/

theorem value_digit : ∀ n < 64, value (digit n) = some n := by decide

theorem isDigit_digit {n : ℕ} (h : n < 64) : isDigit (digit n) = true := by
  unfold isDigit
  rw [value_digit n h]
  rfl

theorem not_isBreak_of_isDigit {c : Char} (h : isDigit c = true) : isBreak c = false := by
  by_contra hbreak
  have hcases : c = '\n' ∨ c = '\r' := by
    rw [Bool.not_eq_false] at hbreak
    simpa [isBreak] using hbreak
  rcases hcases with rfl | rfl <;> exact absurd h (by decide)

/-- Encoded text is made of digits. -/
theorem isDigit_of_mem_encode : ∀ (bs : List UInt8), ∀ c ∈ encode bs, isDigit c = true
  | [], c, hc => by cases hc
  | [a], c, hc => by
      have ha := a.toNat_lt
      simp only [encode, List.mem_cons, List.not_mem_nil, or_false] at hc
      rcases hc with rfl | rfl <;> exact isDigit_digit (by omega)
  | [a, b], c, hc => by
      have ha := a.toNat_lt
      have hb := b.toNat_lt
      simp only [encode, List.mem_cons, List.not_mem_nil, or_false] at hc
      rcases hc with rfl | rfl | rfl <;> exact isDigit_digit (by omega)
  | a :: b :: d :: rest, c, hc => by
      have ha := a.toNat_lt
      have hb := b.toNat_lt
      have hd := d.toNat_lt
      simp only [encode, List.mem_cons] at hc
      rcases hc with rfl | rfl | rfl | rfl | hc
      · exact isDigit_digit (by omega)
      · exact isDigit_digit (by omega)
      · exact isDigit_digit (by omega)
      · exact isDigit_digit (by omega)
      · exact isDigit_of_mem_encode rest c hc

theorem not_mem_encode {c : Char} (h : isDigit c = false) (bs : List UInt8) : c ∉ encode bs :=
  fun hc => by simp [isDigit_of_mem_encode bs c hc] at h

/-! ## The round trip -/

/-- The numbers of the digits. -/
theorem mapM_value_encode (bs : List UInt8) :
    ∃ ns, (encode bs).mapM value = some ns ∧ bytes ns = some bs := by
  induction bs using encode.induct with
  | case1 => exact ⟨[], rfl, rfl⟩
  | case2 a =>
      have ha := a.toNat_lt
      refine ⟨[a.toNat / 4, a.toNat % 4 * 16], ?_, ?_⟩
      · simp [encode, value_digit (a.toNat / 4) (by omega), value_digit (a.toNat % 4 * 16) (by omega)]
      · have hone : a.toNat / 4 * 4 + a.toNat % 4 * 16 / 16 = a.toNat := by omega
        simp only [bytes, hone, UInt8.ofNat_toNat]
  | case3 a b =>
      have ha := a.toNat_lt
      have hb := b.toNat_lt
      refine ⟨[a.toNat / 4, a.toNat % 4 * 16 + b.toNat / 16, b.toNat % 16 * 4], ?_, ?_⟩
      · simp [encode, value_digit (a.toNat / 4) (by omega),
          value_digit (a.toNat % 4 * 16 + b.toNat / 16) (by omega),
          value_digit (b.toNat % 16 * 4) (by omega)]
      · have hone : a.toNat / 4 * 4 + (a.toNat % 4 * 16 + b.toNat / 16) / 16 = a.toNat := by omega
        have htwo : (a.toNat % 4 * 16 + b.toNat / 16) % 16 * 16 + b.toNat % 16 * 4 / 4 = b.toNat := by
          omega
        simp only [bytes, hone, htwo, UInt8.ofNat_toNat]
  | case4 a b c rest ih =>
      have ha := a.toNat_lt
      have hb := b.toNat_lt
      have hc := c.toNat_lt
      obtain ⟨ns, hns, hbytes⟩ := ih
      refine ⟨a.toNat / 4 :: (a.toNat % 4 * 16 + b.toNat / 16) ::
        (b.toNat % 16 * 4 + c.toNat / 64) :: c.toNat % 64 :: ns, ?_, ?_⟩
      · simp [encode, value_digit (a.toNat / 4) (by omega),
          value_digit (a.toNat % 4 * 16 + b.toNat / 16) (by omega),
          value_digit (b.toNat % 16 * 4 + c.toNat / 64) (by omega),
          value_digit (c.toNat % 64) (by omega), hns]
      · have hone : a.toNat / 4 * 4 + (a.toNat % 4 * 16 + b.toNat / 16) / 16 = a.toNat := by omega
        have htwo : (a.toNat % 4 * 16 + b.toNat / 16) % 16 * 16 +
            (b.toNat % 16 * 4 + c.toNat / 64) / 4 = b.toNat := by omega
        have hthree : (b.toNat % 16 * 4 + c.toNat / 64) % 4 * 64 + c.toNat % 64 = c.toNat := by
          omega
        simp only [bytes, hbytes, hone, htwo, hthree, UInt8.ofNat_toNat, Option.map_some]

/-- **Decoding inverts encoding.** -/
theorem decode_encode (bs : List UInt8) : decode (encode bs) = some bs := by
  obtain ⟨ns, hns, hbytes⟩ := mapM_value_encode bs
  have hkept : (encode bs).filter (fun c => !isBreak c) = encode bs := by
    rw [List.filter_eq_self]
    intro c hc
    rw [not_isBreak_of_isDigit (isDigit_of_mem_encode bs c hc)]
    rfl
  unfold decode
  rw [hkept, hns]
  exact hbytes

theorem looseValue_of_value {c : Char} {n : ℕ} (h : value c = some n) : looseValue c = some n := by
  unfold looseValue
  split_ifs with hplus hslash
  · subst hplus
    cases h
  · subst hslash
    cases h
  · exact h

theorem filterMap_looseValue : ∀ {cs : List Char} {ns : List ℕ}, cs.mapM value = some ns →
    cs.filterMap looseValue = ns
  | [], ns, h => by
      obtain rfl : [] = ns := by simpa using h
      rfl
  | c :: cs, ns, h => by
      rw [List.mapM_cons] at h
      obtain ⟨n, hn, h⟩ := Option.bind_eq_some_iff.1 h
      obtain ⟨ns', hns', h⟩ := Option.bind_eq_some_iff.1 h
      obtain rfl := Option.some.inj h
      rw [List.filterMap_cons_some (looseValue_of_value hn), filterMap_looseValue hns']

theorem looseBytes_of_bytes (ns : List ℕ) : ∀ {bs : List UInt8}, bytes ns = some bs →
    looseBytes ns = bs := by
  induction ns using bytes.induct with
  | case1 => exact fun h => Option.some.inj h
  | case2 n => exact fun h => by cases h
  | case3 u v => exact fun h => Option.some.inj h
  | case4 u v w => exact fun h => Option.some.inj h
  | case5 u v w x rest ih =>
      intro bs h
      obtain ⟨bs', hbs', rfl⟩ := Option.map_eq_some_iff.1 h
      rw [looseBytes, ih hbs']

/-- Loose decoding inverts encoding too. -/
theorem decodeLoose_encode (bs : List UInt8) : decodeLoose (encode bs) = bs := by
  obtain ⟨ns, hns, hbytes⟩ := mapM_value_encode bs
  unfold decodeLoose
  rw [filterMap_looseValue hns, looseBytes_of_bytes ns hbytes]

theorem encode_injective {bs bs' : List UInt8} (h : encode bs = encode bs') : bs = bs' := by
  have hdecode := decode_encode bs
  rw [h, decode_encode] at hdecode
  exact (Option.some.inj hdecode).symm

end Base64
