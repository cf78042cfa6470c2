import RowGuard.Json.Inspect

/-!
# Errors of the data layer

An `Error` names what went wrong; `Error.message` is the one place where its kind is put into words.
A stored row that cannot be read as the type asked for is a `DecodeFault`, whose wording says what
was found and what was wanted.
-/

set_option autoImplicit false

namespace RowGuard

/-- What a reader can say about a date and time text it refuses. -/
inductive TimestampFault where
  /-- The text ends too early. -/
  | tooShort
  /-- A character that cannot stand here. -/
  | invalid
  /-- A number too large or too small for its place. -/
  | outOfRange
  /-- The text goes on after the date and time. -/
  | trailing
  /-- The shifted date is beyond the calendar. -/
  | impossible
  deriving DecidableEq

/-- The wording of a date and time fault. -/
def TimestampFault.message : TimestampFault → String
  | tooShort => "premature end of input"
  | invalid => "input contains invalid characters"
  | outOfRange => "input is out of range"
  | trailing => "trailing input"
  | impossible => "no possible date and time matching input"

/-- Why a field map cannot be read as a typed value. -/
inductive DecodeFault where
  /-- A value of another kind. -/
  | kind (found : Json) (wanted : String)
  /-- A value of the right kind beyond its range. -/
  | range (found : Json) (wanted : String)
  | timestamp (fault : TimestampFault)
  | missing (field : String)
  /-- A list with too many or too few elements. -/
  | size (found : Nat) (wanted : String)

/-- What a value is called where another kind was wanted. -/
def Json.kindName : Json → String
  | .null => "null"
  | .bool b => if b then "boolean \x60true\x60" else "boolean \x60false\x60"
  | .number (.int n) => "integer \x60" ++ toString n ++ "\x60"
  | .number (.double d) => "floating point \x60" ++ d.text ++ "\x60"
  | .string s => "string " ++ inspectString s
  | .array _ => "sequence"
  | .object _ => "map"

/-- The wording of a decoding fault. -/
def DecodeFault.message : DecodeFault → String
  | kind found wanted => "invalid type: " ++ found.kindName ++ ", expected " ++ wanted
  | range found wanted => "invalid value: " ++ found.kindName ++ ", expected " ++ wanted
  | timestamp fault => fault.message
  | missing field => "missing field \x60" ++ field ++ "\x60"
  | size found wanted => "invalid length " ++ toString found ++ ", expected " ++ wanted

/-- **An error of the data layer**, by kind. -/
inductive Error where
  /-- The rule set denies the operation on this record. No detail goes with it. -/
  | forbidden
  /-- The record does not exist. -/
  | notFound (what : String)
  /-- No rule set can be built for the caller. -/
  | policyConstruction (reason : String)
  /-- A request that cannot be carried out as it stands. -/
  | invalidInput (reason : String)
  /-- An answer of a kind that does not fit the operation. -/
  | unexpectedOutput (what : String)
  /-- A stored row that is not of the type asked for. -/
  | serialization (fault : DecodeFault)
  | database (reason : String)
  | internal (reason : String)

/-- **The wording of an error.** -/
def Error.message : Error → String
  | forbidden => "Forbidden"
  | notFound what => "Not found: " ++ what
  | policyConstruction reason => "Policy construction failed: " ++ reason
  | invalidInput reason => "Invalid input: " ++ reason
  | unexpectedOutput what => "Unexpected backend output for " ++ what
  | serialization fault => "Serialization error: " ++ fault.message
  | database reason => "Database error: " ++ reason
  | internal reason => "Internal error: " ++ reason

/-- The answer of an operation of the data layer. -/
abbrev Result (α : Type) := Except Error α

end RowGuard
