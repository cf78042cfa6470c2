import RowGuard.Error
import RowGuard.Filter.Basic

/-!
# Filters as conditions of a statement

A filter is rendered as a condition on the columns `id` and `data` of a table of records. Nothing
that a caller supplies enters the text: field names and values become parameters, and the text names
them by number. Field names have to be identifiers all the same.

* `Filter.render`: the condition of a filter, and the parameters after it
* `Clause.text`: the text of a condition
-/

set_option autoImplicit false

namespace RowGuard

/-- A value bound to a placeholder. -/
inductive Param where
  | text (s : String)
  | json (v : Json)

/-- What a comparison reads. -/
inductive Operand where
  /-- The column that holds the identifier. -/
  | id
  /-- The field of the data whose name is bound to a placeholder. -/
  | field (name : Nat)
  deriving DecidableEq

/-- **A condition**, with placeholders by number. -/
inductive Clause where
  | const (b : Bool)
  | compare (op : Comparison) (left : Operand) (value : Nat)
  | join (c : Connective) (parts : List Clause)
  | negate (inner : Clause)

/-- A placeholder. -/
def placeholder (n : Nat) : String := "$" ++ toString n

/-- The text of an operand. -/
def Operand.text : Operand → String
  | id => "to_jsonb(id)"
  | field name => "(data -> " ++ placeholder name ++ "::text)"

/-- The word between the parts of a condition. -/
def Connective.word : Connective → String
  | all => " AND "
  | any => " OR "

namespace Clause

/-- The text of a comparison. An absent field is null, and a comparison is never null. -/
def compareText (op : Comparison) (left : Operand) (value : Nat) : String :=
  let right := placeholder value ++ "::jsonb"
  match op with
  | .eq => "COALESCE(" ++ left.text ++ " = " ++ right ++ ", FALSE)"
  | .ne => left.text ++ " IS DISTINCT FROM " ++ right

mutual

/-- **The text of a condition.** -/
def text : Clause → String
  | const b => if b then "TRUE" else "FALSE"
  | compare op left value => compareText op left value
  | join c parts => "(" ++ c.word.intercalate (textList parts) ++ ")"
  | negate inner => "NOT (" ++ text inner ++ ")"

/-- The texts of the parts. -/
def textList : List Clause → List String
  | [] => []
  | p :: rest => text p :: textList rest

end

end Clause

/-- Whether a character may start a field name. -/
def startsIdentifier (c : Char) : Bool := c.isAlpha || c == '_'

/-- Whether a field name is an identifier: ASCII letters, digits and underscores, no digit first. -/
def isIdentifier (name : String) : Bool :=
  match name.toList with
  | [] => false
  | c :: rest => startsIdentifier c && rest.all fun d => startsIdentifier d || d.isDigit

namespace Filter

/-- The condition of a comparison. The field name is bound before the value; the identifier has a
column of its own. -/
def renderTest (op : Comparison) (field : String) (value : Json) (params : List Param) :
    Result Clause × List Param :=
  if !isIdentifier field then
    (.error (.invalidInput ("invalid field name '" ++ field ++ "'")), params)
  else if field = "id" then
    (.ok (.compare op .id (params.length + 1)), params ++ [.json value])
  else
    (.ok (.compare op (.field (params.length + 1)) (params.length + 2)),
      params ++ [.text field, .json value])

mutual

/-- **The condition of a filter**, with the given parameters and those it adds after them. After an
error the parameters are those bound before it. -/
def render : Filter → List Param → Result Clause × List Param
  | const b, params => (.ok (.const b), params)
  | test op field value, params => renderTest op field value params
  | join c [], params => (.ok (.const c.neutral), params)
  | join c (f :: rest), params =>
    match renderList (f :: rest) params with
    | (.ok parts, params') => (.ok (.join c parts), params')
    | (.error e, params') => (.error e, params')
  | negate f, params =>
    match render f params with
    | (.ok inner, params') => (.ok (.negate inner), params')
    | (.error e, params') => (.error e, params')

/-- The conditions of the parts, up to the first error. -/
def renderList : List Filter → List Param → Result (List Clause) × List Param
  | [], params => (.ok [], params)
  | f :: rest, params =>
    match render f params with
    | (.error e, params') => (.error e, params')
    | (.ok p, params') =>
      match renderList rest params' with
      | (.error e, params'') => (.error e, params'')
      | (.ok ps, params'') => (.ok (p :: ps), params'')

end

end Filter

end RowGuard
