import RowGuard.Keyed
import RowGuard.Number.Double

/-!
# JSON values

A value keeps the kind of its numbers apart: a whole number is exact, anything else is a double. An
object is a list of fields in ascending key order. Two equalities are in use:

* `Json.same`: equality of structure, in which `1` and `1.0` differ but `0.0` and `-0.0` do not
* `Json.agrees`: equality of compared values, which takes two numbers by value at the top level
-/

set_option autoImplicit false

namespace RowGuard

/-- A JSON number, of one of two kinds. -/
inductive Number where
  | int (n : Int)
  | double (d : Double)
  deriving DecidableEq

/-- A JSON value. -/
inductive Json where
  | null
  | bool (b : Bool)
  | number (n : Number)
  | string (s : String)
  | array (elems : List Json)
  | object (fields : List (String × Json))
  deriving Inhabited

/-- The fields of an object or a record, in ascending key order. -/
abbrev Fields := Keyed String Json

namespace Number

/-- The value of a whole number that fits a signed 64-bit word. -/
def signed? : Number → Option Int
  | int n => if -0x8000000000000000 ≤ n ∧ n < 0x8000000000000000 then some n else none
  | double _ => none

/-- The value in units, at double precision. -/
def units : Number → Int
  | int n => intUnits n
  | double d => d.units

/-- Equality of structure: whole numbers with whole numbers, doubles with doubles. -/
def same : Number → Number → Bool
  | int a, int b => a == b
  | double a, double b => a.units == b.units
  | _, _ => false

/-- **Equality by value.** Two signed whole numbers compare exactly, other pairs as doubles. -/
def agrees (a b : Number) : Bool :=
  match a.signed?, b.signed? with
  | some x, some y => x == y
  | _, _ => a.units == b.units

end Number

namespace Json

/-- A whole number. -/
def int (n : Int) : Json := .number (.int n)

/-- An identifier as a whole number. -/
def ofId (id : Int64) : Json := int id.toInt

mutual

/-- **Equality of structure**, with doubles compared by value. -/
def same : Json → Json → Bool
  | null, null => true
  | bool a, bool b => a == b
  | number a, number b => a.same b
  | string a, string b => a == b
  | array a, array b => sameList a b
  | object a, object b => sameFields a b
  | _, _ => false

/-- `same`, element by element. -/
def sameList : List Json → List Json → Bool
  | [], [] => true
  | a :: as, b :: bs => same a b && sameList as bs
  | _, _ => false

/-- `same`, field by field. -/
def sameFields : List (String × Json) → List (String × Json) → Bool
  | [], [] => true
  | (k, a) :: as, (l, b) :: bs => k == l && same a b && sameFields as bs
  | _, _ => false

end

/-- **Equality of compared values**: numbers by value, everything else by structure. -/
def agrees : Json → Json → Bool
  | number a, number b => a.agrees b
  | a, b => same a b

end Json

end RowGuard
