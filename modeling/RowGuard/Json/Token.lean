import RowGuard.Json.Basic
import RowGuard.Text.Numeral

/-!
# The tokens of a JSON text

Each scanner takes the characters from where it stands and returns what it read with the characters
that follow, or none where the text is malformed.

* `scanString`: a quoted string after its opening quote, escapes resolved
* `scanNumber`: a number literal, and `Literal.number?`: the number it denotes
-/

set_option autoImplicit false

namespace RowGuard.Json

/-- The four characters that may stand between tokens. -/
def isGap (c : Char) : Bool := c == ' ' || c == '\n' || c == '\t' || c == '\r'

/-- The characters from the next token on. -/
def skipGap (cs : List Char) : List Char := cs.dropWhile isGap

/-- The value of four hexadecimal digits. -/
def hexFour? (a b c d : Char) : Option Nat := do
  let w ← hexValue? a
  let x ← hexValue? b
  let y ← hexValue? c
  let z ← hexValue? d
  return ((w * 16 + x) * 16 + y) * 16 + z

/-- The character of a one-letter escape. -/
def shortEscape? : Char → Option Char
  | '"' => some '"'
  | '\\' => some '\\'
  | '/' => some '/'
  | 'b' => some '\x08'
  | 'f' => some '\x0c'
  | 'n' => some '\n'
  | 'r' => some '\r'
  | 't' => some '\t'
  | _ => none

/-- The character of a pair of surrogates. -/
def pairChar (high low : Nat) : Char :=
  Char.ofNat (0x10000 + (high - 0xd800) * 0x400 + (low - 0xdc00))

/-- A quoted string after some of its characters, which are given from the last to the first. -/
def scanInto (taken : List Char) : List Char → Option (List Char × List Char)
  | [] => none
  | '"' :: rest => some (taken.reverse, rest)
  | '\\' :: 'u' :: a :: b :: c :: d :: rest =>
    match hexFour? a b c d with
    | none => none
    | some n =>
      if 0xdc00 ≤ n ∧ n ≤ 0xdfff then none
      else if 0xd800 ≤ n ∧ n ≤ 0xdbff then
        match rest with
        | '\\' :: 'u' :: a' :: b' :: c' :: d' :: rest' =>
          match hexFour? a' b' c' d' with
          | none => none
          | some m =>
            if 0xdc00 ≤ m ∧ m ≤ 0xdfff then scanInto (pairChar n m :: taken) rest' else none
        | _ => none
      else scanInto (Char.ofNat n :: taken) rest
  | '\\' :: e :: rest =>
    match shortEscape? e with
    | none => none
    | some c => scanInto (c :: taken) rest
  | c :: rest => if c < ' ' then none else scanInto (c :: taken) rest

/-- **A quoted string after its opening quote.** A character beyond `U+FFFF` is escaped as a pair of
surrogates; half a pair is malformed, and so is a bare control character. -/
def scanString (cs : List Char) : Option (List Char × List Char) := scanInto [] cs

/-- **The characters after a quoted string whose value is not wanted.** Escapes are checked for
their form alone, so that half a surrogate pair passes. -/
def skipString : List Char → Option (List Char)
  | [] => none
  | '"' :: rest => some rest
  | '\\' :: 'u' :: a :: b :: c :: d :: rest =>
    if (hexFour? a b c d).isSome then skipString rest else none
  | '\\' :: e :: rest => if (shortEscape? e).isSome then skipString rest else none
  | c :: rest => if c < ' ' then none else skipString rest

/-- **A number literal**, part by part. -/
structure Literal where
  negative : Bool
  /-- The digits before the point. -/
  whole : List Char
  /-- The digits after the point, if there is one. -/
  fraction : List Char
  /-- The exponent, if one is written. -/
  power : Option Int

/-- The characters of a fraction after its point, and those that follow. -/
def scanFraction : List Char → Option (List Char × List Char)
  | '.' :: rest =>
    match rest.takeWhile Char.isDigit with
    | [] => none
    | ds => some (ds, rest.dropWhile Char.isDigit)
  | cs => some ([], cs)

/-- The written exponent, if there is one, and the characters that follow. -/
def scanExponent : List Char → Option (Option Int × List Char)
  | [] => some (none, [])
  | c :: rest =>
    if c == 'e' || c == 'E' then
      let (negative, ds) := match rest with
        | '+' :: ds => (false, ds)
        | '-' :: ds => (true, ds)
        | ds => (false, ds)
      match ds.takeWhile Char.isDigit with
      | [] => none
      | es =>
        let n : Int := digitsValue 0 es
        some (some (if negative then -n else n), ds.dropWhile Char.isDigit)
    else some (none, c :: rest)

/-- The digits before the point: a zero alone, or digits that start with another. -/
def scanWhole : List Char → Option (List Char × List Char)
  | '0' :: rest =>
    match rest with
    | d :: _ => if d.isDigit then none else some (['0'], rest)
    | [] => some (['0'], [])
  | cs =>
    match cs.takeWhile Char.isDigit with
    | [] => none
    | ds => some (ds, cs.dropWhile Char.isDigit)

/-- **A number literal.** -/
def scanNumber (cs : List Char) : Option (Literal × List Char) := do
  let (negative, cs) := match cs with
    | '-' :: rest => (true, rest)
    | _ => (false, cs)
  let (whole, cs) ← scanWhole cs
  let (fraction, cs) ← scanFraction cs
  let (power, cs) ← scanExponent cs
  return (⟨negative, whole, fraction, power⟩, cs)

/-- The digits read after `start` as long as the value fits an unsigned 64-bit word, and how many of
them there are. -/
def keepDigits (start : Nat) : List Char → Nat × Nat
  | [] => (start, 0)
  | c :: rest =>
    let next := 10 * start + digitValue c
    if next < 0x10000000000000000 then
      let (n, count) := keepDigits next rest
      (n, count + 1)
    else (start, 0)

/-- The largest power of ten that is used in one step of scaling. -/
def maxTenPower : Nat := 308

/-- **A double scaled by a power of ten**, in double arithmetic: one rounding for the power and one
for each step. None when the result is too large. -/
def scaleTen? : Nat → Double → Int → Option Double
  | 0, _, _ => none
  | steps + 1, d, e =>
    if e.natAbs ≤ maxTenPower then
      (Double.tenPower? e.natAbs).bind fun p => if 0 ≤ e then d.mul? p else d.div? p
    else if d.isZero then some d
    else if 0 ≤ e then none
    else
      ((Double.tenPower? maxTenPower).bind d.div?).bind fun d => scaleTen? steps d (e + maxTenPower)

/-- **The number a literal denotes.** A whole literal is exact as long as it fits a 64-bit word,
signed or unsigned; minus zero and everything else is a double. The leading digits that fit a 64-bit
word count and the others are dropped, so that the double is not always the nearest one. None when
it is beyond the largest double. -/
def Literal.number? (l : Literal) : Option Number :=
  let value := digitsValue 0 l.whole
  let exact : Int := if l.negative then -(value : Int) else value
  if l.fraction.isEmpty ∧ l.power.isNone ∧ ¬(l.negative ∧ value = 0) ∧
      -0x8000000000000000 ≤ exact ∧ exact < 0x10000000000000000 then
    some (.int exact)
  else
    let (m, k) := keepDigits 0 l.whole
    let (m, k') := keepDigits m l.fraction
    let e : Int := l.power.getD 0 + (l.whole.length - k : Nat) - k'
    ((Double.ofInt? m).bind fun d => scaleTen? (e.natAbs / maxTenPower + 1) d e).map fun d =>
      .double (if l.negative then d.negated else d)

/-- The characters after a keyword, if they start with it. -/
def afterWord (word : String) (cs : List Char) : Option (List Char) :=
  if word.toList.isPrefixOf cs then some (cs.drop word.length) else none

end RowGuard.Json
