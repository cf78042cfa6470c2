import RowGuard.Proofs.Number.Order

/-!
# The range of doubles

A ratio of units is rounded to a double just if it lies below `Double.limit`, the middle between the
greatest double and the next power of two: the middle itself goes to the even neighbour, which is
out of range. A sum of two doubles may lie beyond it. A quotient of a double by a count does not.

* `roundHalfEven_le_iff_of_odd`: what is rounded to an odd number or less
* `roundBinary_exponent_le_iff`: the exponent of a rounding, by the number that is rounded
* `Double.ofRatio?_eq_none_iff`, `Double.add?_eq_none_iff`: what is out of range
* `Double.divCount?_isSome`: an average of a double is in range
-/

set_option autoImplicit false

namespace RowGuard

/-- **An odd number is not passed** by rounding what lies before the middle to the next one. -/
theorem roundHalfEven_le_iff_of_odd {n d q : Nat} (hd : 0 < d) (hq : q % 2 = 1) :
    roundHalfEven n d ≤ q ↔ 2 * n < (2 * q + 1) * d := by
  have hdm := Nat.div_add_mod n d
  have hr := Nat.mod_lt n hd
  have hexpand : (2 * q + 1) * d = 2 * (d * q) + d := by
    rw [Nat.add_mul, Nat.one_mul, Nat.mul_assoc, Nat.mul_comm q d]
  rw [roundHalfEven_eq, hexpand]
  generalize n / d = k at *
  generalize n % d = r at *
  rcases Nat.lt_trichotomy k q with hlt | rfl | hgt
  · -- a smaller neighbour does not come past it
    have hstep : d * k + d ≤ d * q := Nat.mul_le_mul_left d hlt
    constructor
    · intro _
      omega
    · intro _
      split <;> omega
  · constructor
    · intro h
      split at h <;> omega
    · intro h
      split <;> omega
  · have hstep : d * q + d ≤ d * k := Nat.mul_le_mul_left d hgt
    constructor
    · intro h
      split at h <;> omega
    · intro h
      omega

/-! ## The exponent of a rounding -/

section Binade

variable (num : Nat) {den : Nat} (hden : 0 < den)

/-- The exponent before the carry: what is left of the leading bit and the 52 after it. -/
def leadingBits (den : Nat) : Nat := (num / den).log2 + 1 - 53

theorem roundBinary_eq (den : Nat) : roundBinary num den =
    if roundHalfEven num (2 ^ leadingBits num den * den) = 2 ^ 53
    then (2 ^ 52, leadingBits num den + 1)
    else (roundHalfEven num (2 ^ leadingBits num den * den), leadingBits num den) := by
  unfold roundBinary leadingBits
  dsimp only
  rw [Nat.shiftLeft_eq, Nat.mul_comm den]
  rfl

include hden in
/-- The quotient has 53 bits above the exponent, -/
theorem lt_of_leadingBits : num < 2 ^ (leadingBits num den + 53) * den := by
  rw [← Nat.div_lt_iff_lt_mul hden]
  refine Nat.lt_of_lt_of_le Nat.lt_log2_self ?_
  unfold leadingBits
  exact Nat.pow_le_pow_right Nat.two_pos (by omega)

include hden in
/-- and no fewer if the exponent is positive. -/
theorem le_of_leadingBits (h : 0 < leadingBits num den) :
    2 ^ (leadingBits num den + 52) * den ≤ num := by
  unfold leadingBits at *
  rw [← Nat.le_div_iff_mul_le hden, show (num / den).log2 + 1 - 53 + 52 = (num / den).log2 by omega]
  refine Nat.log2_self_le ?_
  intro hzero
  rw [hzero, Nat.log2_zero] at h
  omega

include hden in
theorem roundHalfEven_leadingBits_le :
    roundHalfEven num (2 ^ leadingBits num den * den) ≤ 2 ^ 53 := by
  have hlt := lt_of_leadingBits num hden
  have hpos : 0 < 2 ^ leadingBits num den * den := Nat.mul_pos (Nat.two_pow_pos _) hden
  have hquotient : num / (2 ^ leadingBits num den * den) < 2 ^ 53 := by
    rw [Nat.div_lt_iff_lt_mul hpos, ← Nat.mul_assoc, ← Nat.pow_add, Nat.add_comm 53]
    exact hlt
  have hround := roundHalfEven_le num (2 ^ leadingBits num den * den)
  omega

include hden in
/-- **The significand of a rounding** has at most 53 bits, and all of them above the exponent 0. -/
theorem roundBinary_significand : (roundBinary num den).1 < 2 ^ 53 ∧
    ((roundBinary num den).2 = 0 ∨ 2 ^ 52 ≤ (roundBinary num den).1) := by
  have hle := roundHalfEven_leadingBits_le num hden
  have hpos : 0 < 2 ^ leadingBits num den * den := Nat.mul_pos (Nat.two_pow_pos _) hden
  rw [roundBinary_eq]
  split
  · exact ⟨Nat.pow_lt_pow_right Nat.one_lt_two (by decide), .inr (Nat.le_refl _)⟩
  · refine ⟨by omega, ?_⟩
    rcases Nat.eq_zero_or_pos (leadingBits num den) with hzero | hbits
    · exact .inl hzero
    · refine .inr (Nat.le_trans ?_ (div_le_roundHalfEven _ _))
      rw [Nat.le_div_iff_mul_le hpos, ← Nat.mul_assoc, ← Nat.pow_add, Nat.add_comm 52]
      exact le_of_leadingBits num hden hbits

/-- **The middle** between the greatest number of the exponent `e + 1` and the next power of two. -/
def lastMiddle (e : Nat) : Nat := (2 ^ 54 - 1) * 2 ^ e

include hden in
/-- **The exponent of a rounding** stays within a bound exactly below the last middle. -/
theorem roundBinary_exponent_le_iff (e : Nat) :
    (roundBinary num den).2 ≤ e + 1 ↔ num < lastMiddle e * den := by
  have hlow := le_of_leadingBits num hden
  have hhigh := lt_of_leadingBits num hden
  have hle := roundHalfEven_leadingBits_le num hden
  rw [roundBinary_eq, lastMiddle, Nat.mul_assoc]
  generalize leadingBits num den = b at *
  rcases Nat.lt_trichotomy b (e + 1) with hlt | rfl | hgt
  · -- even with a carry the exponent is within the bound
    have hpow : 2 ^ (b + 53) ≤ 2 ^ 53 * 2 ^ e := by
      rw [← Nat.pow_add]
      exact Nat.pow_le_pow_right Nat.two_pos (by omega)
    have hbelow := Nat.mul_le_mul_right den hpow
    rw [Nat.mul_assoc] at hbelow
    constructor
    · intro _
      omega
    · intro _
      split
      · exact hlt
      · exact Nat.le_of_lt hlt
  · -- the exponent is within the bound if there is no carry
    have hpos : 0 < 2 ^ (e + 1) * den := Nat.mul_pos (Nat.two_pow_pos _) hden
    have hcarry := roundHalfEven_le_iff_of_odd (n := num) (q := 2 ^ 53 - 1) hpos (by decide)
    have hdouble : 2 ^ (e + 1) * den = 2 * (2 ^ e * den) := by
      rw [Nat.pow_succ, Nat.mul_comm (2 ^ e) 2, Nat.mul_assoc]
    rw [hdouble] at hcarry hle ⊢
    generalize 2 ^ e * den = unit at *
    constructor
    · intro h
      split at h
      · dsimp only at h
        omega
      · have hsmall := hcarry.1 (by omega)
        omega
    · intro h
      have hsmall := hcarry.2 (by omega)
      split
      · omega
      · exact Nat.le_refl _
  · -- the leading bit alone is beyond the bound
    have hpow : 2 ^ 54 * 2 ^ e ≤ 2 ^ (b + 52) := by
      rw [← Nat.pow_add]
      exact Nat.pow_le_pow_right Nat.two_pos (by omega)
    have habove := Nat.mul_le_mul_right den hpow
    rw [Nat.mul_assoc] at habove
    have hnum := hlow (by omega)
    constructor
    · intro h
      split at h <;> dsimp only at h <;> omega
    · intro h
      omega

end Binade

theorem lastMiddle_pos (e : Nat) : 0 < lastMiddle e :=
  Nat.mul_pos (by decide) (Nat.two_pow_pos e)

/-- **A number of 53 bits** with the exponent `e + 1` or a lesser one lies below the last middle. -/
theorem mul_pow_lt_lastMiddle {m k e : Nat} (hm : m < 2 ^ 53) (hk : k ≤ e + 1) :
    m * 2 ^ k < lastMiddle e := by
  have hpow : 2 ^ k ≤ 2 ^ e * 2 := by
    rw [← Nat.pow_succ]
    exact Nat.pow_le_pow_right Nat.two_pos hk
  have hscaled : m * 2 ^ k ≤ (2 ^ 53 - 1) * (2 ^ e * 2) :=
    Nat.mul_le_mul (Nat.le_sub_one_of_lt hm) hpow
  have hunit : 0 < 2 ^ e := Nat.two_pow_pos e
  unfold lastMiddle
  omega

/-! ## Doubles -/

namespace Double

/-- **The end of the range**, in units: the middle between the greatest double and the next power of
two. -/
def limit : Nat := lastMiddle 2044

/-- **A ratio without a double** is at the end of the range or beyond it. -/
theorem ofRatio?_eq_none_iff (negative : Bool) {num den : Nat} (hden : 0 < den) :
    ofRatio? negative num den = none ↔ limit * den ≤ num := by
  have hsignificand := roundBinary_significand num hden
  have hexponent := roundBinary_exponent_le_iff num hden 2044
  rw [limit, ← Nat.not_lt, ← hexponent]
  unfold ofRatio?
  dsimp only
  split
  · rename_i h
    exact iff_of_false (Option.some_ne_none _) (not_not_intro h.2.1)
  · rename_i h
    exact iff_of_true rfl fun hin => h ⟨hsignificand.1, hin, hsignificand.2⟩

theorem ofUnits?_eq_none_iff (k : Int) : ofUnits? k = none ↔ limit ≤ k.natAbs := by
  rw [ofUnits?, ofRatio?_eq_none_iff _ Nat.one_pos, Nat.mul_one]

/-- **A sum without a double**: the exact sum is at the end of the range or beyond it. -/
theorem add?_eq_none_iff (a b : Double) :
    a.add? b = none ↔ limit ≤ (a.units + b.units).natAbs := by
  unfold add?
  by_cases hzero : a.units + b.units = 0
  · rw [if_pos hzero, hzero]
    exact iff_of_false (Option.some_ne_none _) (Nat.not_le.2 (lastMiddle_pos 2044))
  · rw [if_neg hzero]
    exact ofUnits?_eq_none_iff _

/-- A double is in the range. -/
theorem magnitude_lt_limit (d : Double) : d.magnitude < limit := by
  obtain ⟨hsignificand, hexponent, -⟩ := d.canonical
  unfold magnitude limit
  rw [Nat.shiftLeft_eq]
  exact mul_pow_lt_lastMiddle hsignificand hexponent

theorem natAbs_units (d : Double) : d.units.natAbs = d.magnitude := by
  unfold units
  split <;> omega

/-- A double is the rounding that it was made of. -/
theorem magnitude_ofUnits? {k : Int} {d : Double} (h : ofUnits? k = some d) :
    d.magnitude = roundUnits k.natAbs := by
  unfold ofUnits? ofRatio? at h
  dsimp only at h
  split at h
  · cases h
    rfl
  · cases h

/-- **A number below the end of the range** has a double, no greater than a bound of the number is
rounded to. -/
theorem ofUnits?_of_le {k : Int} {bound : Nat} (h : k.natAbs ≤ bound) (hbound : bound < limit) :
    ∃ d, ofUnits? k = some d ∧ d.units.natAbs ≤ roundUnits bound := by
  have hsome : ofUnits? k ≠ none := by
    rw [Ne, ofUnits?_eq_none_iff]
    omega
  obtain ⟨d, hd⟩ := Option.ne_none_iff_exists'.1 hsome
  refine ⟨d, hd, ?_⟩
  rw [natAbs_units, magnitude_ofUnits? hd]
  exact roundUnits_mono h

/-- **The average of a double** has a double, by any count. -/
theorem divCount?_isSome (d : Double) {count : Nat} (hcount : 0 < count) :
    ∃ q, d.divCount? count = some q := by
  refine Option.ne_none_iff_exists'.1 fun hnone => ?_
  have hfar := (ofRatio?_eq_none_iff _ hcount).1 hnone
  have hnear := d.magnitude_lt_limit
  have hle : limit * 1 ≤ limit * count := Nat.mul_le_mul_left limit hcount
  omega

end Double

end RowGuard
