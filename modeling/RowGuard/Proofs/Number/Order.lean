import RowGuard.Proofs.Number.Rounding

/-!
# Rounding keeps the order of numbers

Rounding to a double moves numbers together but never past one another, so of two whole numbers the
lesser has the lesser double or the same one.

* `roundUnits_mono`, `intUnits_mono`: the order of numbers and of their doubles
* `intUnits_inj`: a whole number below `2 ^ 53` does not share its double
-/

set_option autoImplicit false

namespace RowGuard

/-- **When a quotient is rounded up**: past the middle, and in the middle from an odd neighbour. -/
theorem roundHalfEven_eq (n d : Nat) : roundHalfEven n d =
    n / d + if d < 2 * (n % d) ∨ (2 * (n % d) = d ∧ n / d % 2 = 1) then 1 else 0 := by
  unfold roundHalfEven
  dsimp only
  by_cases hlow : 2 * (n % d) < d
  · rw [if_pos hlow, if_neg (by omega), Nat.add_zero]
  · rw [if_neg hlow]
    by_cases hhigh : d < 2 * (n % d)
    · rw [if_pos hhigh, if_pos (.inl hhigh)]
    · rw [if_neg hhigh]
      by_cases heven : n / d % 2 = 0
      · rw [if_pos heven, if_neg (by omega), Nat.add_zero]
      · rw [if_neg heven, if_pos (.inr ⟨by omega, by omega⟩)]

theorem roundHalfEven_le (n d : Nat) : roundHalfEven n d ≤ n / d + 1 := by
  rw [roundHalfEven_eq]
  split <;> omega

theorem roundHalfEven_mono {m n : Nat} (h : m ≤ n) (d : Nat) :
    roundHalfEven m d ≤ roundHalfEven n d := by
  rcases Nat.eq_or_lt_of_le (Nat.div_le_div_right (c := d) h) with heq | hlt
  · -- between the same neighbours the remainders are in order
    have hm := Nat.div_add_mod m d
    have hn := Nat.div_add_mod n d
    have hrest : m % d ≤ n % d := by
      rw [heq] at hm
      omega
    rw [roundHalfEven_eq, roundHalfEven_eq, heq]
    by_cases hup : d < 2 * (m % d) ∨ (2 * (m % d) = d ∧ n / d % 2 = 1)
    · refine Nat.le_of_eq ?_
      rw [if_pos hup, if_pos (by omega)]
    · rw [if_neg hup]
      exact Nat.le_add_right _ _
  · calc roundHalfEven m d ≤ m / d + 1 := roundHalfEven_le m d
      _ ≤ n / d := hlt
      _ ≤ roundHalfEven n d := div_le_roundHalfEven n d

/-- **The significand of a rounding**, before the carry, has at most 53 bits or is `2 ^ 53`. -/
theorem roundHalfEven_pow_le (n : Nat) :
    roundHalfEven n (2 ^ (n.log2 + 1 - 53)) ≤ 2 ^ (n.log2 + 1 - (n.log2 + 1 - 53)) := by
  generalize he : n.log2 + 1 - 53 = e
  by_cases hzero : e = 0
  · have hexact := roundHalfEven_mul n Nat.one_pos
    rw [Nat.mul_one] at hexact
    rw [hzero, Nat.pow_zero, hexact, Nat.sub_zero]
    exact Nat.le_of_lt Nat.lt_log2_self
  · have hsplit : n.log2 + 1 = (n.log2 + 1 - e) + e := by omega
    have hquotient : n / 2 ^ e < 2 ^ (n.log2 + 1 - e) := by
      rw [Nat.div_lt_iff_lt_mul (Nat.two_pow_pos e), ← Nat.pow_add, ← hsplit]
      exact Nat.lt_log2_self
    exact Nat.le_trans (roundHalfEven_le n _) hquotient

/-- **The next power of two** is not passed by rounding. -/
theorem roundUnits_le (n : Nat) : roundUnits n ≤ 2 ^ (n.log2 + 1) := by
  have hsplit : n.log2 + 1 = (n.log2 + 1 - (n.log2 + 1 - 53)) + (n.log2 + 1 - 53) := by omega
  calc roundUnits n
      = roundHalfEven n (2 ^ (n.log2 + 1 - 53)) * 2 ^ (n.log2 + 1 - 53) := roundUnits_eq n
    _ ≤ 2 ^ (n.log2 + 1 - (n.log2 + 1 - 53)) * 2 ^ (n.log2 + 1 - 53) :=
      Nat.mul_le_mul_right _ (roundHalfEven_pow_le n)
    _ = 2 ^ (n.log2 + 1) := by rw [← Nat.pow_add, ← hsplit]

theorem log2_mono {m n : Nat} (h : m ≤ n) : m.log2 ≤ n.log2 := by
  by_cases hzero : m = 0
  · rw [hzero, Nat.log2_zero]
    exact Nat.zero_le _
  · rw [Nat.le_log2 (by omega)]
    exact Nat.le_trans (Nat.log2_self_le hzero) h

/-- **Rounding keeps the order** of numbers. -/
theorem roundUnits_mono {m n : Nat} (h : m ≤ n) : roundUnits m ≤ roundUnits n := by
  rcases Nat.eq_or_lt_of_le (log2_mono h) with heq | hlt
  · rw [roundUnits_eq, roundUnits_eq, heq]
    exact Nat.mul_le_mul_right _ (roundHalfEven_mono h _)
  · -- a power of two lies between the roundings
    calc roundUnits m ≤ 2 ^ (m.log2 + 1) := roundUnits_le m
      _ ≤ 2 ^ n.log2 := Nat.pow_le_pow_right Nat.two_pos hlt
      _ ≤ roundUnits n := le_roundUnits fun hzero => by rw [hzero, Nat.log2_zero] at hlt; omega

/-! ## Whole numbers -/

theorem intUnits_neg (n : Int) : intUnits (-n) = -intUnits n := by
  unfold intUnits
  rw [Int.natAbs_neg]
  rcases Int.lt_trichotomy n 0 with hn | rfl | hn
  · rw [if_neg (by omega), if_pos hn, Int.neg_neg]
  · rfl
  · rw [if_pos (by omega), if_neg (by omega)]

theorem intUnits_nonneg {n : Int} (h : 0 ≤ n) : 0 ≤ intUnits n := by
  rw [intUnits, if_neg (Int.not_lt.2 h)]
  exact Int.natCast_nonneg _

theorem natAbs_intUnits (n : Int) : (intUnits n).natAbs = roundUnits (n.natAbs * unitsPerOne) := by
  unfold intUnits
  split
  · rw [Int.natAbs_neg, Int.natAbs_natCast]
  · rw [Int.natAbs_natCast]

theorem intUnits_mono_of_nonneg {m n : Int} (hm : 0 ≤ m) (h : m ≤ n) :
    intUnits m ≤ intUnits n := by
  rw [intUnits, intUnits, if_neg (by omega), if_neg (by omega)]
  exact Int.ofNat_le.2 (roundUnits_mono (Nat.mul_le_mul_right _ (by omega)))

/-- **The order of whole numbers** is that of their doubles, where these differ. -/
theorem intUnits_mono {m n : Int} (h : m ≤ n) : intUnits m ≤ intUnits n := by
  rcases Int.le_total 0 m with hm | hm
  · exact intUnits_mono_of_nonneg hm h
  · rcases Int.le_total 0 n with hn | hn
    · have hneg := intUnits_nonneg (Int.neg_nonneg_of_nonpos hm)
      rw [intUnits_neg] at hneg
      exact Int.le_trans (by omega) (intUnits_nonneg hn)
    · have hneg := intUnits_mono_of_nonneg (Int.neg_nonneg_of_nonpos hn) (Int.neg_le_neg h)
      rw [intUnits_neg, intUnits_neg] at hneg
      omega

/-- **A whole number below `2 ^ 53`** is the only one of its double. -/
theorem intUnits_inj {m n : Int} (hm : m.natAbs < 2 ^ 53) (h : intUnits m = intUnits n) :
    m = n := by
  have hnatural : intUnits m.natAbs = intUnits n.natAbs := by
    rw [intUnits_natCast, intUnits_natCast, ← natAbs_intUnits, ← natAbs_intUnits, h]
  rcases Int.natAbs_eq_natAbs_iff.1 (intUnits_inj_of_lt hm hnatural) with heq | heq
  · exact heq
  · -- opposite numbers of one double are zero
    have hzero : (intUnits m.natAbs).natAbs = 0 := by
      rw [intUnits_natCast, Int.natAbs_natCast, ← natAbs_intUnits]
      rw [heq, intUnits_neg] at h
      rw [heq, intUnits_neg]
      omega
    rw [intUnits_of_lt hm, Int.natAbs_natCast, Nat.mul_eq_zero,
      or_iff_left (Nat.ne_of_gt unitsPerOne_pos)] at hzero
    omega

end RowGuard
