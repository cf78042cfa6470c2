import RowGuard.Json.Text
import RowGuard.Text.Printable

/-!
# Values as they appear in messages

Messages show a value with its kind spelled out, `Number(1.5)` or `Array [Null]`, and a string in
quotes with everything unprintable escaped.
-/

set_option autoImplicit false

namespace RowGuard

/-- A character of a quoted string in a message. -/
def inspectChar (c : Char) : List Char :=
  if c = '\x00' then ['\\', '0']
  else if c = '\t' then ['\\', 't']
  else if c = '\r' then ['\\', 'r']
  else if c = '\n' then ['\\', 'n']
  else if c = '\\' then ['\\', '\\']
  else if c = '"' then ['\\', '"']
  else if isPrintable c then [c]
  else '\\' :: 'u' :: '\x7b' :: (Nat.toDigits 16 c.toNat ++ ['\x7d'])

/-- A string in quotes, as messages show it. -/
def inspectString (s : String) : String :=
  String.ofList ('"' :: (s.toList.flatMap inspectChar ++ ['"']))

/-- Parts between braces. -/
def braced (parts : List String) : String := "\x7b" ++ ", ".intercalate parts ++ "\x7d"

/-- Parts between brackets. -/
def bracketed (parts : List String) : String := "[" ++ ", ".intercalate parts ++ "]"

namespace Json

mutual

/-- **A value as messages show it.** -/
def inspect : Json → String
  | null => "Null"
  | bool b => if b then "Bool(true)" else "Bool(false)"
  | number n => "Number(" ++ n.text ++ ")"
  | string s => "String(" ++ inspectString s ++ ")"
  | array elems => "Array " ++ bracketed (inspectList elems)
  | object fields => "Object " ++ braced (inspectFields fields)

/-- The elements as messages show them. -/
def inspectList : List Json → List String
  | [] => []
  | v :: rest => inspect v :: inspectList rest

/-- The fields as messages show them. -/
def inspectFields : List (String × Json) → List String
  | [] => []
  | (k, v) :: rest => (inspectString k ++ ": " ++ inspect v) :: inspectFields rest

end

end Json

end RowGuard
