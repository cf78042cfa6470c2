import RowGuard.Error
import RowGuard.Text.Blank
import RowGuard.Text.Numeral
import RowGuard.Timestamp.Basic

/-!
# Reading dates and times

The accepted form is wider than the written one: blanks may stand before every number and around the
hyphens and colons, numbers may be short, `t` or a blank may stand for `T`, and the zone is `Z`,
`UTC` or a signed offset. The text is read from left to right and the first fault is reported; a
fault in the numbers taken together, such as 30 February, comes after every fault of form.
-/

set_option autoImplicit false

namespace RowGuard

/-- What was read, and the characters after it. -/
abbrev Scanned (α : Type) := α × List Char

/-- A number of one to `most` digits below `2 ^ 63`, read after `value`. -/
def digitsFrom (value : Nat) : Nat → List Char → Except TimestampFault (Scanned Nat)
  | 0, cs => .ok (value, cs)
  | _, [] => .ok (value, [])
  | most + 1, c :: rest =>
    if c.isDigit then
      let v := 10 * value + digitValue c
      if v < 0x8000000000000000 then digitsFrom v most rest else .error .outOfRange
    else .ok (value, c :: rest)

/-- A number of one to `most` digits. -/
def shortNumber (most : Nat) (cs : List Char) : Except TimestampFault (Scanned Nat) :=
  match cs with
  | [] => .error .tooShort
  | c :: _ => if c.isDigit then digitsFrom 0 most cs else .error .invalid

/-- A number within bounds, blanks before it skipped. -/
def boundedNumber (lower upper : Nat) (cs : List Char) : Except TimestampFault (Scanned Nat) := do
  let (n, rest) ← shortNumber 2 (dropBlanks cs)
  if lower ≤ n ∧ n ≤ upper then return (n, rest) else throw .outOfRange

/-- A year: up to four digits, or a sign and any number of them. -/
def yearNumber (cs : List Char) : Except TimestampFault (Scanned Int) := do
  let (year, rest) ← match dropBlanks cs with
    | '-' :: rest => (shortNumber rest.length rest).map fun r => (-(r.1 : Int), r.2)
    | '+' :: rest => (shortNumber rest.length rest).map fun r => ((r.1 : Int), r.2)
    | cs => (shortNumber 4 cs).map fun r => ((r.1 : Int), r.2)
  if -0x80000000 ≤ year ∧ year < 0x80000000 then return (year, rest) else throw .outOfRange

/-- The characters after a separator, blanks before it skipped. -/
def separator (mark : Char) (cs : List Char) : Except TimestampFault (List Char) :=
  match dropBlanks cs with
  | [] => .error .tooShort
  | c :: rest => if c = mark then .ok rest else .error .invalid

/-- The nanoseconds of a fraction, if one follows. Digits beyond the ninth are dropped. -/
def fractionNumber : List Char → Except TimestampFault (Scanned Nat)
  | '.' :: cs => do
    let (n, rest) ← shortNumber 9 cs
    let count := cs.length - rest.length
    return (n * Nat.pow 10 (9 - count), rest.dropWhile Char.isDigit)
  | cs => .ok (0, cs)

/-- Two digits of an offset. -/
def offsetDigits (cs : List Char) : Except TimestampFault (Nat × Nat × List Char) :=
  match cs with
  | a :: b :: rest =>
    if a.isDigit ∧ b.isDigit then .ok (digitValue a, digitValue b, rest) else .error .invalid
  | [a] => if a.toNat < 128 then .error .tooShort else .error .invalid
  | [] => .error .tooShort

/-- A signed offset, in minutes. Colons and blanks may stand between hours and minutes. -/
def signedOffset (negative : Bool) (cs : List Char) : Except TimestampFault (Scanned Int) := do
  let (h₁, h₀, rest) ← offsetDigits cs
  let (m₁, m₀, rest) ← offsetDigits (rest.dropWhile fun c => c == ':' || isBlank c)
  if 6 ≤ m₁ then throw .outOfRange
  let minutes : Int := (h₁ * 10 + h₀) * 60 + (m₁ * 10 + m₀)
  return (if negative then -minutes else minutes, rest)

/-- **A zone**: the minutes it is ahead of UTC. -/
def zoneOffset (cs : List Char) : Except TimestampFault (Scanned Int) :=
  match cs with
  | [] => .error .tooShort
  | c :: rest =>
    if (cs.take 3).map Char.toUpper = ['U', 'T', 'C'] then .ok (0, cs.drop 3)
    else if c = 'Z' ∨ c = 'z' then .ok (0, rest)
    else if c = '+' then signedOffset false rest
    else if c = '-' ∨ c = '\u2212' then signedOffset true rest
    else .error .invalid

/-- A date, with the characters after it. Whether the day exists is not asked yet. -/
def readDate (cs : List Char) : Except TimestampFault (Scanned Date) := do
  let (year, cs) ← yearNumber cs
  let cs ← separator '-' cs
  let (month, cs) ← boundedNumber 1 12 cs
  let cs ← separator '-' cs
  let (day, cs) ← boundedNumber 1 31 cs
  return (⟨year, month, day⟩, cs)

/-- The mark between date and time. -/
def dateTimeMark : List Char → Except TimestampFault (List Char)
  | [] => .error .tooShort
  | c :: rest => if c = 'T' ∨ c = 't' ∨ c = ' ' then .ok rest else .error .invalid

/-- A time of day, put to a date, with the characters after it. -/
def readTime (date : Date) (cs : List Char) : Except TimestampFault (Scanned Timestamp) := do
  let (hour, cs) ← boundedNumber 0 23 cs
  let cs ← separator ':' cs
  let (minute, cs) ← boundedNumber 0 59 cs
  let cs ← separator ':' cs
  let (second, cs) ← boundedNumber 0 60 cs
  let (nano, cs) ← fractionNumber cs
  return (⟨date, hour, minute, second, nano⟩, cs)

/-- **Reads a date and time** with its zone, as the same instant in UTC. -/
def Timestamp.parse (text : String) : Except TimestampFault Timestamp := do
  let (date, cs) ← readDate text.toList
  let cs ← dateTimeMark cs
  let (wall, cs) ← readTime date cs
  let (minutes, cs) ← zoneOffset (dropBlanks cs)
  if !(dropBlanks cs).isEmpty then throw .trailing
  if !date.isValid ∨ minutes ≤ -1440 ∨ 1440 ≤ minutes then throw .outOfRange
  match wall.shift? minutes with
  | some t => return t
  | none => throw .impossible

end RowGuard
