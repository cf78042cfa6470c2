/-!
# Finite binary64 numbers

Every finite double is a whole number of *units*, a unit being the smallest positive double
`2 ^ -1074`. `Double` holds sign, significand and exponent in canonical form, so that equal bit
patterns are equal structures. Arithmetic is exact on units and rounds once at the end:

* `roundHalfEven`: a quotient of natural numbers, to nearest, ties to even
* `roundUnits`: a number of units rounded to 53 significant bits, without a bound on the exponent
* `Double.ofRatio?`: the double nearest to a ratio of units, none when it is too large
-/

set_option autoImplicit false

namespace RowGuard

/-- The quotient rounded to nearest; a tie goes to the even neighbour. -/
def roundHalfEven (num den : Nat) : Nat :=
  let q := num / den
  let r := num % den
  if 2 * r < den then q
  else if den < 2 * r then q + 1
  else if q % 2 = 0 then q else q + 1

/-- **Significand and exponent of a rounded ratio.** The significand has at most 53 bits, and
exactly 53 when the exponent is positive. -/
def roundBinary (num den : Nat) : Nat × Nat :=
  let e := (num / den).log2 + 1 - 53
  let m := roundHalfEven num (den <<< e)
  if m = 1 <<< 53 then (1 <<< 52, e + 1) else (m, e)

/-- A number of units rounded to 53 significant bits. -/
def roundUnits (n : Nat) : Nat :=
  let (m, e) := roundBinary n 1
  m <<< e

/-- How many units make one. -/
def unitsPerOne : Nat := 1 <<< 1074

/-- A whole number in units, rounded to double precision. -/
def intUnits (n : Int) : Int :=
  if n < 0 then -(roundUnits (n.natAbs * unitsPerOne) : Int)
  else roundUnits (n.natAbs * unitsPerOne)

/-- **A finite double**: `± significand * 2 ^ exponent` units, in canonical form. -/
structure Double where
  negative : Bool
  significand : Nat
  exponent : Nat
  canonical : significand < 1 <<< 53 ∧ exponent ≤ 2045 ∧ (exponent = 0 ∨ 1 <<< 52 ≤ significand)
  deriving DecidableEq

namespace Double

/-- Zero, of either sign. -/
def zero (negative : Bool) : Double := ⟨negative, 0, 0, by decide⟩

/-- The absolute value, in units. -/
def magnitude (d : Double) : Nat := d.significand <<< d.exponent

/-- The value, in units. -/
def units (d : Double) : Int := if d.negative then -(d.magnitude : Int) else d.magnitude

/-- **The double nearest to `± num / den` units**; none when it is beyond the largest double. -/
def ofRatio? (negative : Bool) (num den : Nat) : Option Double :=
  let (m, e) := roundBinary num den
  if h : m < 1 <<< 53 ∧ e ≤ 2045 ∧ (e = 0 ∨ 1 <<< 52 ≤ m) then some ⟨negative, m, e, h⟩ else none

/-- The double nearest to a whole number of units. -/
def ofUnits? (n : Int) : Option Double := ofRatio? (decide (n < 0)) n.natAbs 1

/-- The double nearest to a whole number. -/
def ofInt? (n : Int) : Option Double := ofUnits? (n * unitsPerOne)

/-- **The rounded sum**; none on overflow. A zero sum is negative only when both parts are. -/
def add? (a b : Double) : Option Double :=
  if a.units + b.units = 0 then some (zero (a.negative && b.negative))
  else ofUnits? (a.units + b.units)

/-- The rounded quotient by a positive count. -/
def divCount? (d : Double) (count : Nat) : Option Double := ofRatio? d.negative d.magnitude count

/-- The rounded product; none on overflow. -/
def mul? (a b : Double) : Option Double :=
  ofRatio? (a.negative != b.negative) (a.magnitude * b.magnitude) unitsPerOne

/-- The rounded quotient by a double that is not zero; none on overflow. -/
def div? (a b : Double) : Option Double :=
  ofRatio? (a.negative != b.negative) (a.magnitude * unitsPerOne) b.magnitude

/-- The double nearest to a power of ten. -/
def tenPower? (n : Nat) : Option Double := ofInt? (Nat.pow 10 n)

/-- Whether the value is zero, of either sign. -/
def isZero (d : Double) : Bool := d.significand == 0

/-- The value with the sign of its negation. -/
def negated (d : Double) : Double := { d with negative := !d.negative }

/-- The interchange bit pattern: sign, biased exponent, fraction. -/
def toBits (d : Double) : Nat :=
  (if d.negative then 1 <<< 63 else 0) +
    if d.significand < 1 <<< 52 then d.significand
    else ((d.exponent + 1) <<< 52) + (d.significand - 1 <<< 52)

end Double

end RowGuard
