import RowGuard.Pattern.Mode
import RowGuard.Text.Numeral

/-!
# The pieces of a pattern

A piece is what one character or one escape stands for. A mode may have no means to match it. No
tables of characters are at hand: in Unicode mode neither the other case of a letter nor a shorthand
class can be resolved. In byte mode nothing may match a part of a character.

* `readEscape`, `readPiece`, `readSetPiece`: read a piece
* `Piece.resolves`, `Piece.resolvesInSet`: whether a mode can match it
-/

set_option autoImplicit false

namespace RowGuard.Pattern

/-- **What one character or escape stands for.** -/
inductive Piece where
  /-- A character, which may have been written as a byte in two hexadecimal digits. -/
  | char (c : Char) (asByte : Bool)
  /-- A class with a one-letter name, such as the digits, or what is outside of it. -/
  | shorthand (negated : Bool)
  /-- Any character but the end of a line. -/
  | any
  /-- The start or the end of the text or of a line. -/
  | anchor
  /-- An edge of a word, or a place that is none. -/
  | wordEdge
  deriving DecidableEq

namespace Piece

/-- Whether a mode can match a shorthand class. -/
def resolvesShorthand (m : Mode) (negated : Bool) : Bool := !m.unicode && !negated

/-- **Whether a mode can match a piece** that stands by itself. -/
def resolves (m : Mode) : Piece → Bool
  | char c asByte => if m.unicode then !m.caseless else !asByte || c.toNat < 128
  | shorthand negated => resolvesShorthand m negated
  | any => m.unicode
  | anchor => true
  | wordEdge => true

/-- Whether a mode can match a character in a set. -/
def resolvesChar (m : Mode) (c : Char) : Bool := if m.unicode then !m.caseless else c.toNat < 128

/-- **Whether a mode can match a piece in a set.** -/
def resolvesInSet (m : Mode) : Piece → Bool
  | char c _ => resolvesChar m c
  | shorthand negated => resolvesShorthand m negated
  | _ => false

end Piece

/-- A piece with the characters after it. -/
abbrev PieceReading := Option (Piece × List Char)

/-- The value of a number of hexadecimal digits, read after `value`. -/
def readHex (m : Mode) : Nat → Nat → List Char → Option (Nat × List Char)
  | 0, value, cs => some (value, cs)
  | digits + 1, value, cs =>
    match m.skip cs with
    | [] => none
    | c :: rest => (hexValue? c).bind fun d => readHex m digits (16 * value + d) rest

/-- The character with a code point in a number of hexadecimal digits. -/
def readCodePoint (m : Mode) (digits : Nat) (cs : List Char) : PieceReading :=
  (readHex m digits 0 cs).bind fun (n, rest) =>
    if n.isValidChar then some (.char (Char.ofNat n) (digits == 2), rest) else none

/-- **Reads an escape** after its backslash. Digits and unknown letters are no escapes, nor are
characters beyond ASCII. Properties are never resolved. -/
def readEscape (m : Mode) : List Char → PieceReading
  | [] => none
  | 'x' :: rest => readCodePoint m 2 rest
  | 'u' :: rest => readCodePoint m 4 rest
  | 'U' :: rest => readCodePoint m 8 rest
  | 'a' :: rest => some (.char '\x07' false, rest)
  | 'f' :: rest => some (.char '\x0c' false, rest)
  | 't' :: rest => some (.char '\t' false, rest)
  | 'n' :: rest => some (.char '\n' false, rest)
  | 'r' :: rest => some (.char '\r' false, rest)
  | 'v' :: rest => some (.char '\x0b' false, rest)
  | c :: rest =>
    if "dsw".toList.contains c then some (.shorthand false, rest)
    else if "DSW".toList.contains c then some (.shorthand true, rest)
    else if "Az".toList.contains c then some (.anchor, rest)
    else if "bB<>".toList.contains c then some (.wordEdge, rest)
    else if c.isAlphanum || 128 ≤ c.toNat then none
    else some (.char c false, rest)

/-- **Reads a piece** that stands by itself. -/
def readPiece (m : Mode) : List Char → PieceReading
  | [] => none
  | '\\' :: rest => readEscape m rest
  | '.' :: rest => some (.any, rest)
  | '^' :: rest => some (.anchor, rest)
  | '$' :: rest => some (.anchor, rest)
  | c :: rest => some (.char c false, rest)

/-- Reads a piece in a set, where only a backslash has a meaning of its own. -/
def readSetPiece (m : Mode) : List Char → PieceReading
  | [] => none
  | '\\' :: rest => readEscape m rest
  | c :: rest => some (.char c false, rest)

end RowGuard.Pattern
