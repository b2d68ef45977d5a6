import Mathlib.Tactic

set_option autoImplicit false

/-! # Integers as binary floating-point numbers

The nearest number of a binary format with `p` significant bits to an integer, ties to even. The
exponents are not bounded: for the integers of a machine word no such bound is met. -/

namespace Rounding

/-- A multiple of `step` next to `n`, the even one of two equally near. -/
def roundTo (step n : Nat) : Nat :=
  (if 2 * (n % step) < step ∨ (2 * (n % step) = step ∧ n / step % 2 = 0) then n / step
    else n / step + 1) * step

/-- The distance of the numbers with `p` significant bits around `n`. -/
def spacing (p n : Nat) : Nat := 2 ^ (Nat.log2 n + 1 - p)

def roundNat (p n : Nat) : Nat := roundTo (spacing p n) n

/-- An integer, rounded to `p` significant bits. -/
def roundInt (p : Nat) (n : Int) : Int := n.sign * roundNat p n.natAbs

/-- An integer as a double. -/
def toDouble (n : Int) : Int := roundInt 53 n

variable {p : Nat}

theorem roundTo_mono (step : Nat) {m n : Nat} (h : m ≤ n) : roundTo step m ≤ roundTo step n := by
  unfold roundTo
  refine Nat.mul_le_mul_right step ?_
  have hq : m / step ≤ n / step := Nat.div_le_div_right h
  rcases Nat.lt_or_eq_of_le hq with hlt | heq
  · split_ifs <;> omega
  · have hm := Nat.div_add_mod m step
    have hn := Nat.div_add_mod n step
    rw [heq] at hm
    have hr : m % step ≤ n % step := by omega
    rw [heq]
    split_ifs <;> omega

theorem le_roundTo {step k n : Nat} (hpos : 0 < step) (h : k * step ≤ n) :
    k * step ≤ roundTo step n := by
  unfold roundTo
  refine Nat.mul_le_mul_right step ?_
  have hk : k ≤ n / step := (Nat.le_div_iff_mul_le hpos).2 h
  split_ifs <;> omega

theorem roundTo_le {step k n : Nat} (h : n < k * step) : roundTo step n ≤ k * step := by
  have hpos : 0 < step := Nat.pos_of_ne_zero fun hzero => by simp [hzero] at h
  unfold roundTo
  refine Nat.mul_le_mul_right step ?_
  have hk : n / step < k := (Nat.div_lt_iff_lt_mul hpos).2 h
  split_ifs <;> omega

theorem spacing_pos (p n : Nat) : 0 < spacing p n := Nat.two_pow_pos _

/-- The powers of two around a number bound its rounding. -/
theorem two_pow_le_roundNat (hp : 0 < p) {n : Nat} (hn : n ≠ 0) :
    2 ^ Nat.log2 n ≤ roundNat p n := by
  have hsplit : 2 ^ Nat.log2 n = 2 ^ (Nat.log2 n - (Nat.log2 n + 1 - p)) * spacing p n := by
    unfold spacing
    rw [← pow_add]
    congr 1
    omega
  rw [hsplit]
  refine le_roundTo (spacing_pos p n) ?_
  rw [← hsplit]
  exact Nat.log2_self_le hn

theorem roundNat_le_two_pow (p n : Nat) : roundNat p n ≤ 2 ^ (Nat.log2 n + 1) := by
  have hsplit : 2 ^ (Nat.log2 n + 1)
      = 2 ^ (Nat.log2 n + 1 - (Nat.log2 n + 1 - p)) * spacing p n := by
    unfold spacing
    rw [← pow_add]
    congr 1
    omega
  rw [hsplit]
  refine roundTo_le ?_
  rw [← hsplit]
  exact Nat.lt_log2_self

/-- **Rounding keeps the order.** -/
theorem roundNat_mono (hp : 0 < p) {m n : Nat} (h : m ≤ n) : roundNat p m ≤ roundNat p n := by
  rcases Nat.lt_or_ge (Nat.log2 m) (Nat.log2 n) with hlt | hge
  · have hn : n ≠ 0 := fun hzero => by simp [hzero] at hlt
    calc roundNat p m ≤ 2 ^ (Nat.log2 m + 1) := roundNat_le_two_pow p m
      _ ≤ 2 ^ Nat.log2 n := Nat.pow_le_pow_right (by decide) hlt
      _ ≤ roundNat p n := two_pow_le_roundNat hp hn
  · have hlog : Nat.log2 m = Nat.log2 n := by
      refine le_antisymm ?_ hge
      rcases Nat.eq_zero_or_pos m with hzero | hpos
      · simp [hzero]
      · exact (Nat.le_log2 (by omega)).2 ((Nat.log2_self_le (by omega)).trans h)
    unfold roundNat spacing
    rw [hlog]
    exact roundTo_mono _ h

theorem roundNat_zero (p : Nat) : roundNat p 0 = 0 := by
  simp [roundNat, roundTo, spacing]

theorem roundNat_pos (hp : 0 < p) {n : Nat} (hn : n ≠ 0) : 0 < roundNat p n :=
  (Nat.two_pow_pos _).trans_le (two_pow_le_roundNat hp hn)

theorem roundInt_ofNat (p n : Nat) : roundInt p n = roundNat p n := by
  cases n with
  | zero => simp [roundInt, roundNat_zero]
  | succ n =>
      have hsign : ((n + 1 : Nat) : Int).sign = 1 := rfl
      rw [roundInt, Int.natAbs_natCast, hsign, one_mul]

theorem roundInt_neg (p : Nat) (n : Int) : roundInt p (-n) = -roundInt p n := by
  simp [roundInt]

theorem roundInt_mono (hp : 0 < p) {m n : Int} (h : m ≤ n) : roundInt p m ≤ roundInt p n := by
  have hnonneg : ∀ k : Nat, 0 ≤ roundInt p k := fun k => by
    rw [roundInt_ofNat]
    exact Int.natCast_nonneg _
  rcases Int.eq_nat_or_neg m with ⟨a, rfl | rfl⟩
  · obtain ⟨b, rfl⟩ := Int.eq_ofNat_of_zero_le ((Int.natCast_nonneg a).trans h)
    rw [roundInt_ofNat, roundInt_ofNat]
    exact_mod_cast roundNat_mono hp (by exact_mod_cast h)
  · rw [roundInt_neg]
    rcases Int.eq_nat_or_neg n with ⟨b, rfl | rfl⟩
    · exact (Int.neg_nonpos_of_nonneg (hnonneg a)).trans (hnonneg b)
    · rw [roundInt_neg, roundInt_ofNat, roundInt_ofNat]
      have hle : b ≤ a := by omega
      exact neg_le_neg (by exact_mod_cast roundNat_mono hp hle)

/-- **Rounding keeps the sign.** -/
theorem roundInt_nonpos_iff (hp : 0 < p) (n : Int) : roundInt p n ≤ 0 ↔ n ≤ 0 := by
  rcases Int.eq_nat_or_neg n with ⟨a, rfl | rfl⟩
  · rw [roundInt_ofNat]
    rcases Nat.eq_zero_or_pos a with hzero | hpos
    · simp [hzero, roundNat_zero]
    · have := roundNat_pos hp (Nat.pos_iff_ne_zero.1 hpos)
      omega
  · rw [roundInt_neg, roundInt_ofNat]
    omega

theorem toDouble_mono {m n : Int} (h : m ≤ n) : toDouble m ≤ toDouble n :=
  roundInt_mono (by decide) h

theorem toDouble_nonpos_iff (n : Int) : toDouble n ≤ 0 ↔ n ≤ 0 := roundInt_nonpos_iff (by decide) n

/-- Between these two integers there is no double. -/
example : toDouble (2 ^ 53 + 1) = toDouble (2 ^ 53) := by decide +kernel

end Rounding
