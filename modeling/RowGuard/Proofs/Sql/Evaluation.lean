import RowGuard.Proofs.Sql.Expression
import RowGuard.Sql.Clause

/-!
# Values of an expression on a row

Conditions have three values: a comparison with a null is neither true nor false but null, and
`AND`, `OR` and `NOT` pass a null on where the other side does not settle the matter. What a database
makes of JSON values is left to it: `Database.Standard` says what is expected of it.

* `Database.eval`: the value of an expression, if the operations in it apply
* `Database.value`: the value of a text
-/

set_option autoImplicit false

namespace RowGuard.Sql

/-- **A value** of an expression. -/
inductive Value where
  | null
  | bool (b : Bool)
  | text (s : String)
  | whole (n : Int64)
  | json (v : Json)

/-- A row of the table of records. -/
structure Row where
  id : Int64
  model : String
  data : Fields

/-- **What a database makes of JSON values.** -/
structure Database where
  /-- `=` between two values. -/
  equal : Json → Json → Bool
  /-- `->`, which may be null. -/
  field : Json → String → Option Json

/-- A field of an object is null exactly when the object has no such field. -/
def Database.ReadsFields (db : Database) : Prop :=
  ∀ (fields : Fields) name, db.field (.object fields) name = fields.get? name

/-- What is expected of a database: it compares values as filters do, and a field of an object is
null exactly when the object has no such field. -/
structure Database.Standard (db : Database) : Prop where
  equal : ∀ v w, db.equal v w = v.agrees w
  field : ∀ (fields : Fields) name, db.field (.object fields) name = fields.get? name

/-- A database that does what is expected of it. -/
def Database.ordinary : Database where
  equal := Json.agrees
  field
    | .object fields, name => Keyed.get? name fields
    | _, _ => none

theorem Database.ordinary_standard : ordinary.Standard := ⟨fun _ _ => rfl, fun _ _ => rfl⟩

namespace Value

/-- A value that may be null. -/
def ofOption : Option Json → Value
  | some v => json v
  | none => null

/-- The value of a placeholder. -/
def ofParam : Param → Value
  | .text s => text s
  | .json v => json v

/-- The truth value of a condition: none for null. -/
def truth? : Value → Option (Option Bool)
  | null => some none
  | bool b => some (some b)
  | _ => none

/-- The condition with a truth value. -/
def ofTruth : Option Bool → Value
  | some b => bool b
  | none => null

/-- A value as another type, by the casts that conditions make. -/
def cast (type : String) : Value → Option Value
  | null => some null
  | text s => if type = "text" then some (text s) else none
  | json v =>
    if type = "jsonb" then some (json v)
    else match v with
      | .number (.int n) => if type = "bigint" then (idOfInt? n).map whole else none
      | _ => none
  | whole n => if type = "bigint" then some (whole n) else none
  | bool b => if type = "boolean" then some (bool b) else none

/-- The first of some values that is not null. -/
def coalesce : List Value → Value
  | [] => null
  | null :: rest => coalesce rest
  | v :: _ => v

/-- The value of a call. -/
def call (f : String) (args : List Value) : Option Value :=
  if f = "coalesce" then some (coalesce args)
  else if f = "to_jsonb" then
    match args with
    | [whole n] => some (json (.ofId n))
    | _ => none
  else none

end Value

/-- Conjunction of three values. -/
def and3 : Option Bool → Option Bool → Option Bool
  | some false, _ | _, some false => some false
  | some true, some true => some true
  | _, _ => none

/-- Disjunction of three values. -/
def or3 : Option Bool → Option Bool → Option Bool
  | some true, _ | _, some true => some true
  | some false, some false => some false
  | _, _ => none

namespace Database

variable (db : Database)

/-- Whether two values are equal: null if one of them is, and no answer for values of two kinds. -/
def same? : Value → Value → Option (Option Bool)
  | .null, _ | _, .null => some none
  | .bool a, .bool b => some (some (a == b))
  | .text s, .text t => some (some (s == t))
  | .whole m, .whole n => some (some (m == n))
  | .json v, .json w => some (some (db.equal v w))
  | _, _ => none

/-- Whether two values are distinct: a null only from what is not null. -/
def distinct? : Value → Value → Option Bool
  | .null, .null => some false
  | .null, _ | _, .null => some true
  | v, w => (db.same? v w).bind fun found => found.map Bool.not

/-- The value of two operands under an operator. -/
def apply : Operator → Value → Value → Option Value
  | .and, v, w => v.truth?.bind fun a => w.truth?.map fun b => .ofTruth (and3 a b)
  | .or, v, w => v.truth?.bind fun a => w.truth?.map fun b => .ofTruth (or3 a b)
  | .equal, v, w => (db.same? v w).map .ofTruth
  | .distinct, v, w => (db.distinct? v w).map .bool
  | .arrow, .json v, .text name => some (.ofOption (db.field v name))
  | .arrow, .null, _ | .arrow, _, .null => some .null
  | .arrow, _, _ => none

/-- The value of a column. -/
def column (row : Row) (name : String) : Option Value :=
  if name = "id" then some (.whole row.id)
  else if name = "model" then some (.text row.model)
  else if name = "data" then some (.json (.object row.data))
  else none

/-- The value bound to a placeholder. The first one has number one. -/
def param (params : List Param) : Nat → Option Value
  | 0 => none
  | n + 1 => params[n]?.map .ofParam

mutual

/-- **The value of an expression** on a row with values bound to the placeholders; none where an
operation is applied to what it is not made for. -/
def eval (row : Row) (params : List Param) : Expr → Option Value
  | .const b => some (.bool b)
  | .column name => column row name
  | .param n => param params n
  | .cast e type => (eval row params e).bind (Value.cast type)
  | .binary op l r =>
    (eval row params l).bind fun v => (eval row params r).bind fun w => db.apply op v w
  | .not e => (eval row params e).bind fun v => v.truth?.map fun a => .ofTruth (a.map Bool.not)
  | .call f args => (evalList row params args).bind (Value.call f)

/-- The values of expressions, in order. -/
def evalList (row : Row) (params : List Param) : List Expr → Option (List Value)
  | [] => some []
  | e :: rest => (eval row params e).bind fun v => (evalList row params rest).map (v :: ·)

end

/-- **The value of a text** on a row. -/
def value (row : Row) (params : List Param) (text : String) : Option Value :=
  (read (lex text.toList)).bind (db.eval row params)

end Database

end RowGuard.Sql
