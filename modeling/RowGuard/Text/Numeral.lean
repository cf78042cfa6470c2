/-!
# Numerals

A decimal numeral is an optional sign and at least one ASCII digit. Nothing else may stand in it,
neither blanks nor separators.
-/

set_option autoImplicit false

namespace RowGuard

/-- The value of an ASCII digit. -/
def digitValue (c : Char) : Nat := c.toNat - '0'.toNat

/-- The value of a run of digits, read after `start`. -/
def digitsValue (start : Nat) (cs : List Char) : Nat :=
  cs.foldl (fun acc c => 10 * acc + digitValue c) start

/-- The value of an unsigned numeral without a sign. -/
def bareNumeral? (cs : List Char) : Option Nat :=
  if cs ≠ [] ∧ cs.all Char.isDigit then some (digitsValue 0 cs) else none

/-- **The value of a numeral** with an optional sign. -/
def numeral? : List Char → Option Int
  | '-' :: cs => (bareNumeral? cs).map fun n => -(n : Int)
  | '+' :: cs => (bareNumeral? cs).map fun n => (n : Int)
  | cs => (bareNumeral? cs).map fun n => (n : Int)

/-- Whether the text after a mantissa is an exponent, or none. -/
def isExponentOrNone : List Char → Bool
  | [] => true
  | c :: rest => (c == 'e' || c == 'E') && (numeral? rest).isSome

/-- **Whether a text denotes a floating-point number**: digits with a point before, between or after
them and an exponent, or a word for infinity or for no number, after an optional sign. -/
def isFloatNumeral (cs : List Char) : Bool :=
  let magnitude := match cs with
    | '+' :: rest => rest
    | '-' :: rest => rest
    | rest => rest
  let words := ["inf", "infinity", "nan"].map String.toList
  words.contains (magnitude.map Char.toLower) ||
    (let whole := magnitude.takeWhile Char.isDigit
    match magnitude.dropWhile Char.isDigit with
    | '.' :: rest =>
      !(whole.isEmpty && (rest.takeWhile Char.isDigit).isEmpty) &&
        isExponentOrNone (rest.dropWhile Char.isDigit)
    | rest => !whole.isEmpty && isExponentOrNone rest)

/-- The value of a hexadecimal digit. -/
def hexValue? (c : Char) : Option Nat :=
  if '0' ≤ c ∧ c ≤ '9' then some (c.toNat - '0'.toNat)
  else if 'a' ≤ c ∧ c ≤ 'f' then some (c.toNat - 'a'.toNat + 10)
  else if 'A' ≤ c ∧ c ≤ 'F' then some (c.toNat - 'A'.toNat + 10)
  else none

/-- The identifier a whole number denotes, if it fits a signed 64-bit word. -/
def idOfInt? (n : Int) : Option Int64 :=
  if -0x8000000000000000 ≤ n ∧ n < 0x8000000000000000 then some (Int64.ofInt n) else none

/-- The identifier a numeral denotes. -/
def idOfText? (cs : List Char) : Option Int64 := (numeral? cs).bind idOfInt?

/-- The port number a numeral denotes. -/
def portOfText? (cs : List Char) : Option UInt16 :=
  (numeral? cs).bind fun n => if 0 ≤ n ∧ n < 0x10000 then some (UInt16.ofNat n.toNat) else none

end RowGuard
