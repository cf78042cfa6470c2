import RowGuard.Subject
import RowGuard.Text.Numeral

/-!
# Reading structures from JSON

A structure is written as an object of its fields, or as a list of their values in the order in
which the structure declares them. Fields that it does not declare are ignored. A reader returns
none where the value does not fit.

* `Json.members?`: the fields of a written structure
* `Fields.required`, `Fields.defaulted`: a field that must be there, and one that may be left out
* `Json.variant?`: a plain name, which may also be written as an object with that name and null
-/

set_option autoImplicit false

namespace RowGuard

namespace Json

/-- A string. -/
def asString? : Json → Option String
  | string s => some s
  | _ => none

/-- A truth value. -/
def asBool? : Json → Option Bool
  | bool b => some b
  | _ => none

/-- A whole number that fits a signed 64-bit word. -/
def asId? : Json → Option Int64
  | number (.int n) => idOfInt? n
  | _ => none

/-- An object. -/
def asFields? : Json → Option Fields
  | object fields => some fields
  | _ => none

/-- A list. -/
def asList? : Json → Option (List Json)
  | array elems => some elems
  | _ => none

/-- A list of values of one type. -/
def asListOf? {α : Type} (read : Json → Option α) (v : Json) : Option (List α) :=
  v.asList?.bind fun elems => elems.mapM read

/-- A value that may be null. -/
def asNullable? {α : Type} (read : Json → Option α) : Json → Option (Option α)
  | null => some none
  | v => (read v).map some

/-- **The fields of a structure** that declares `names`, from an object or from a list of values. -/
def members? (names : List String) : Json → Option Fields
  | object fields => some fields
  | array elems => if elems.length ≤ names.length then some (names.zip elems) else none
  | _ => none

/-- **A plain name**, written as a string or as an object with that name and null. -/
def variant? {α : Type} (ofName? : String → Option α) : Json → Option α
  | string s => ofName? s
  | object [(s, null)] => ofName? s
  | _ => none

/-- A field that is written only when it is there. -/
def present (name : String) : Option Json → Fields
  | some v => [(name, v)]
  | none => []

end Json

namespace Fields

variable {α : Type}

/-- A field that must be there. -/
def required (name : String) (read : Json → Option α) (fields : Fields) : Option α :=
  (fields.get? name).bind read

/-- A field that stands for `fallback` when it is left out. -/
def defaulted (name : String) (fallback : α) (read : Json → Option α) (fields : Fields) :
    Option α :=
  match fields.get? name with
  | some v => read v
  | none => some fallback

/-- A field that may be left out or null. -/
def optional (name : String) (read : Json → Option α) (fields : Fields) : Option (Option α) :=
  defaulted name none (Json.asNullable? read) fields

end Fields

end RowGuard
