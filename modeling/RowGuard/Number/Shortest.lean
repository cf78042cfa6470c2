import RowGuard.Number.Double

/-!
# The shortest decimal of a double

A double is written with the fewest significant digits that read back as the same double, and of
those with the digits nearest to it. `Double.shortest` finds them by testing, for one digit, two
digits and so on, the two neighbours of the value on that decimal grid against the interval of
numbers that round to the double. `Double.text` lays the digits out.
-/

set_option autoImplicit false

namespace RowGuard

/-- Removes trailing zeros of a decimal, raising its exponent; `fuel` bounds how many. -/
def dropZeros (fuel digits : Nat) (exponent : Int) : Nat × Int :=
  match fuel with
  | 0 => (digits, exponent)
  | fuel + 1 =>
    if digits % 10 = 0 ∧ digits ≠ 0 then dropZeros fuel (digits / 10) (exponent + 1)
    else (digits, exponent)

namespace Double

/-- **The interval of numbers that round to a double**, in quarters of a unit: lower end, value,
upper end. The lower gap is half as wide at a power of two. -/
def readBack (d : Double) : Nat × Nat × Nat :=
  let gap := 1 <<< d.exponent
  let value := 4 * d.magnitude
  let below := if d.significand = 1 <<< 52 ∧ d.exponent ≠ 0 then gap else 2 * gap
  (value - below, value, value + 2 * gap)

/-- The decimal exponent of the leading digit of a nonzero double. -/
def leadingExponent (d : Double) : Int :=
  let one := unitsPerOne
  if one ≤ d.magnitude then ((Nat.toDigits 10 (d.magnitude / one)).length : Int) - 1
  else -((Nat.toDigits 10 ((one - 1) / d.magnitude)).length : Int)

/-- The better neighbour on the grid of step `10 ^ p`, if one reads back. -/
def onGrid? (d : Double) (p : Int) : Option Nat :=
  let (lower, value, upper) := d.readBack
  let up := Nat.pow 10 (-p).toNat
  let step := 4 * unitsPerOne * Nat.pow 10 p.toNat
  let near := value * up / step
  let closed := d.significand % 2 = 0
  let inside := fun x : Nat =>
    if closed then lower * up ≤ x * step && x * step ≤ upper * up
    else lower * up < x * step && x * step < upper * up
  match inside near, inside (near + 1) with
  | true, true => some (roundHalfEven (value * up) step)
  | true, false => some near
  | false, true => some (near + 1)
  | false, false => none

/-- Tries grids with more and more digits. -/
def shortestFrom (d : Double) (lead : Int) : Nat → Nat → Nat × Int
  | 0, _ => (0, 0)
  | fuel + 1, count =>
    match d.onGrid? (lead - count) with
    | some x => (x, lead - count)
    | none => shortestFrom d lead fuel (count + 1)

/-- **The shortest decimal** `digits * 10 ^ exponent` that reads back as the double. -/
def shortest (d : Double) : Nat × Int :=
  if d.significand = 0 then (0, 0)
  else
    let (digits, exponent) := shortestFrom d d.leadingExponent 17 0
    dropZeros 18 digits exponent

/-- **The text of a double.** Leading exponents from -5 to 15 are written positionally, with at
least one digit after the point; others as `d.ddde±x`. -/
def text (d : Double) : String :=
  let (digits, exponent) := d.shortest
  let ds := Nat.toDigits 10 digits
  let lead := exponent + ds.length - 1
  let body :=
    if d.significand = 0 then "0.0".toList
    else if 0 ≤ exponent ∧ lead ≤ 15 then
      ds ++ List.replicate exponent.toNat '0' ++ ['.', '0']
    else if 0 ≤ lead ∧ lead ≤ 15 then
      ds.take (lead.toNat + 1) ++ '.' :: ds.drop (lead.toNat + 1)
    else if -5 ≤ lead ∧ lead < 0 then
      '0' :: '.' :: (List.replicate (-lead - 1).toNat '0' ++ ds)
    else
      let power := (if lead < 0 then '-' else '+') :: Nat.toDigits 10 lead.natAbs
      match ds with
      | [x] => x :: 'e' :: power
      | x :: rest => x :: '.' :: (rest ++ 'e' :: power)
      | [] => []
  String.ofList (if d.negative then '-' :: body else body)

end Double

end RowGuard
