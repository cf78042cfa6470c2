import Mathlib.Algebra.Group.Nat.Defs
import RowGuard.Json.Basic

/-!
# What rounding to a double keeps

A whole number that is compared as a double is rounded to 53 significant bits. Up to `2 ^ 53` this
changes nothing, and beyond it no number comes to lie below: so a number below `2 ^ 53` is the only
whole number that rounds to it, while greater numbers share their doubles with their neighbours.

* `roundUnits_mul_pow`: a number of few significant bits is its own rounding
* `le_roundUnits`: rounding does not fall below the leading bit
* `intUnits_inj_of_lt`: whole numbers of one double are equal if one of them is below `2 ^ 53`
-/

set_option autoImplicit false

namespace RowGuard

theorem roundHalfEven_mul (q : Nat) {d : Nat} (hd : 0 < d) : roundHalfEven (q * d) d = q := by
  unfold roundHalfEven
  rw [Nat.mul_div_cancel q hd, Nat.mul_mod_left]
  exact if_pos (by omega)

theorem div_le_roundHalfEven (n d : Nat) : n / d ≤ roundHalfEven n d := by
  unfold roundHalfEven
  dsimp only
  split
  · exact Nat.le_refl _
  · split
    · exact Nat.le_succ _
    · split
      · exact Nat.le_refl _
      · exact Nat.le_succ _

/-- **The rounding as a product**: the carry to a 54th bit goes into the exponent. -/
theorem roundUnits_eq (n : Nat) : roundUnits n =
    roundHalfEven n (2 ^ (n.log2 + 1 - 53)) * 2 ^ (n.log2 + 1 - 53) := by
  unfold roundUnits roundBinary
  dsimp only
  rw [Nat.div_one]
  generalize n.log2 + 1 - 53 = e
  rw [Nat.one_shiftLeft e]
  by_cases hcarry : roundHalfEven n (2 ^ e) = 1 <<< 53
  · rw [if_pos hcarry, hcarry, Nat.shiftLeft_eq, Nat.one_shiftLeft, Nat.one_shiftLeft,
      ← Nat.pow_add, ← Nat.pow_add]
    congr 1
    omega
  · rw [if_neg hcarry]
    exact Nat.shiftLeft_eq ..

/-- **A number of few significant bits** is its own rounding. -/
theorem roundUnits_mul_pow {m : Nat} (hm : m < 2 ^ 53) (k : Nat) :
    roundUnits (m * 2 ^ k) = m * 2 ^ k := by
  by_cases hzero : m = 0
  · rw [hzero, Nat.zero_mul]
    rfl
  have hlog : (m * 2 ^ k).log2 = m.log2 + k := by
    refine (Nat.log2_eq_iff ?_).2 ⟨?_, ?_⟩
    · exact Nat.mul_ne_zero hzero (Nat.ne_of_gt (Nat.two_pow_pos k))
    · rw [Nat.pow_add]
      exact Nat.mul_le_mul_right _ (Nat.log2_self_le hzero)
    · rw [Nat.add_right_comm, Nat.pow_add]
      exact Nat.mul_lt_mul_of_pos_right Nat.lt_log2_self (Nat.two_pow_pos k)
  have hfew : m.log2 < 53 := (Nat.log2_lt hzero).2 hm
  rw [roundUnits_eq, hlog]
  generalize he : m.log2 + k + 1 - 53 = e
  -- the bits that rounding drops are zeros
  have hdivides : m * 2 ^ k = m * 2 ^ (k - e) * 2 ^ e := by
    rw [Nat.mul_assoc, ← Nat.pow_add]
    congr 2
    omega
  rw [hdivides, roundHalfEven_mul _ (Nat.two_pow_pos e)]

/-- **The leading bit** stays: rounding does not fall below it. -/
theorem le_roundUnits {n : Nat} (hn : n ≠ 0) : 2 ^ n.log2 ≤ roundUnits n := by
  rw [roundUnits_eq]
  generalize he : n.log2 + 1 - 53 = e
  have hsplit : n.log2 = (n.log2 - e) + e := by omega
  have hquotient : 2 ^ (n.log2 - e) ≤ n / 2 ^ e := by
    rw [Nat.le_div_iff_mul_le (Nat.two_pow_pos e), ← Nat.pow_add, ← hsplit]
    exact Nat.log2_self_le hn
  calc 2 ^ n.log2 = 2 ^ (n.log2 - e) * 2 ^ e := by rw [← Nat.pow_add, ← hsplit]
    _ ≤ roundHalfEven n (2 ^ e) * 2 ^ e :=
      Nat.mul_le_mul_right _ (Nat.le_trans hquotient (div_le_roundHalfEven n _))

theorem unitsPerOne_pow : ∃ k, unitsPerOne = 2 ^ k := by
  have hshift : ∀ k : Nat, 1 <<< k = 2 ^ k := Nat.one_shiftLeft
  exact ⟨1074, hshift 1074⟩

theorem unitsPerOne_pos : 0 < unitsPerOne := by
  obtain ⟨k, hk⟩ := unitsPerOne_pow
  rw [hk]
  exact Nat.two_pow_pos k

theorem intUnits_natCast (n : Nat) : intUnits n = (roundUnits (n * unitsPerOne) : Nat) := by
  rw [intUnits, if_neg (by omega), Int.natAbs_natCast]

/-- Below `2 ^ 53` a whole number in units is exact. -/
theorem intUnits_of_lt {n : Nat} (hn : n < 2 ^ 53) :
    intUnits n = (n * unitsPerOne : Nat) := by
  obtain ⟨k, hk⟩ := unitsPerOne_pow
  rw [intUnits_natCast, hk, roundUnits_mul_pow hn]

/-- From `2 ^ 53` on no whole number is rounded to less. -/
theorem le_intUnits {n : Nat} (hn : 2 ^ 53 ≤ n) : (2 ^ 53 * unitsPerOne : Nat) ≤ intUnits n := by
  obtain ⟨k, hk⟩ := unitsPerOne_pow
  have hzero : n * 2 ^ k ≠ 0 := Nat.mul_ne_zero (by omega) (Nat.ne_of_gt (Nat.two_pow_pos k))
  have hlog : 53 + k ≤ (n * 2 ^ k).log2 := by
    rw [Nat.le_log2 hzero, Nat.pow_add]
    exact Nat.mul_le_mul_right _ hn
  rw [intUnits_natCast, hk, ← Nat.pow_add]
  exact Int.ofNat_le.2
    (Nat.le_trans (Nat.pow_le_pow_right Nat.two_pos hlog) (le_roundUnits hzero))

/-- **Whole numbers of one double** are equal if one of them is below `2 ^ 53`. -/
theorem intUnits_inj_of_lt {m n : Nat} (hm : m < 2 ^ 53) (h : intUnits m = intUnits n) :
    m = n := by
  rw [intUnits_of_lt hm] at h
  by_cases hn : n < 2 ^ 53
  · rw [intUnits_of_lt hn] at h
    exact Nat.eq_of_mul_eq_mul_right unitsPerOne_pos (Int.ofNat_inj.1 h)
  · -- the other number is rounded to `2 ^ 53` or more
    have hlow := le_intUnits (Nat.not_lt.1 hn)
    rw [← h, Int.ofNat_le] at hlow
    exact absurd (Nat.le_of_mul_le_mul_right hlow unitsPerOne_pos) (Nat.not_le.2 hm)

end RowGuard
