import RowGuard.Codec.Fields
import RowGuard.Filter.Basic

/-!
# Filters in JSON

The constants are written `"true"` and `"false"`; any other filter is an object with one key, which
names its kind: a comparison with its field and value, a connective with its parts, or a negation.
-/

set_option autoImplicit false

namespace RowGuard

/-- A comparison. -/
def Comparison.ofJson? : Json → Option Comparison := Json.variant? ofName?

/-- The key of a connective. -/
def Connective.key : Connective → String
  | all => "and"
  | any => "or"

namespace Filter

mutual

/-- **A filter in JSON.** -/
def toJson : Filter → Json
  | const b => .string (if b then "true" else "false")
  | test op field value => .object [(op.name, .array [.string field, value])]
  | join c parts => .object [(c.key, .array (toJsonList parts))]
  | negate f => .object [("not", toJson f)]

/-- The parts of a filter in JSON. -/
def toJsonList : List Filter → List Json
  | [] => []
  | f :: rest => toJson f :: toJsonList rest

end

/-- A constant by its name. -/
def constant? : String → Option Filter
  | "true" => some pass
  | "false" => some fail
  | _ => none

mutual

/-- **Reads a filter**, taking it as it is written. -/
def ofJson? : Json → Option Filter
  | .string s => constant? s
  | .object [(key, .null)] => constant? key
  | .object [(key, .array elems)] =>
    if key = "and" then (ofJsonList? elems).map (join .all)
    else if key = "or" then (ofJsonList? elems).map (join .any)
    else
      match Comparison.ofName? key, elems with
      | some op, [.string field, value] => some (test op field value)
      | _, _ => none
  | .object [(key, inner)] => if key = "not" then (ofJson? inner).map negate else none
  | _ => none

/-- Reads the parts of a filter. -/
def ofJsonList? : List Json → Option (List Filter)
  | [] => some []
  | v :: rest =>
    match ofJson? v, ofJsonList? rest with
    | some f, some fs => some (f :: fs)
    | _, _ => none

end

end Filter

end RowGuard
