import RowGuard.Json.Basic
import RowGuard.Number.Shortest

/-!
# The compact text of a JSON value

No blanks, fields in key order, and strings with the short escapes, so that a value has one text.
-/

set_option autoImplicit false

namespace RowGuard

/-- The digit of a number below sixteen, in lower case. -/
def hexDigit (n : Nat) : Char := Nat.digitChar n

/-- The four hexadecimal digits of a character below `2 ^ 16`. -/
def hexFour (n : Nat) : List Char :=
  [hexDigit (n / 4096 % 16), hexDigit (n / 256 % 16), hexDigit (n / 16 % 16), hexDigit (n % 16)]

/-- A character inside a quoted string. Quote, backslash and control characters are escaped. -/
def Json.escape (c : Char) : List Char :=
  if c = '"' then ['\\', '"']
  else if c = '\\' then ['\\', '\\']
  else if c = '\x08' then ['\\', 'b']
  else if c = '\x0c' then ['\\', 'f']
  else if c = '\n' then ['\\', 'n']
  else if c = '\r' then ['\\', 'r']
  else if c = '\t' then ['\\', 't']
  else if c < ' ' then '\\' :: 'u' :: hexFour c.toNat
  else [c]

/-- A string in quotes. -/
def Json.quote (s : String) : String :=
  String.ofList ('"' :: (s.toList.flatMap Json.escape ++ ['"']))

/-- The text of a number. -/
def Number.text : Number → String
  | int n => toString n
  | double d => d.text

namespace Json

mutual

/-- **The compact text** of a value. -/
def text : Json → String
  | null => "null"
  | bool b => if b then "true" else "false"
  | number n => n.text
  | string s => quote s
  | array elems => "[" ++ ",".intercalate (textList elems) ++ "]"
  | object fields => "\x7b" ++ ",".intercalate (textFields fields) ++ "\x7d"

/-- The texts of the elements. -/
def textList : List Json → List String
  | [] => []
  | v :: rest => text v :: textList rest

/-- The texts of the fields. -/
def textFields : List (String × Json) → List String
  | [] => []
  | (k, v) :: rest => (quote k ++ ":" ++ text v) :: textFields rest

end

end Json

end RowGuard
