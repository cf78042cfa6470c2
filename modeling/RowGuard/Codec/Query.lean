import RowGuard.Codec.Fields
import RowGuard.Query

/-!
# Operations and aggregates in JSON

An operation is written by its name, an aggregate as `fn` and `field`. In an object the function of
an aggregate may be written in either form of a name, in a list it is a string.
-/

set_option autoImplicit false

namespace RowGuard

namespace Operation

/-- An operation in JSON. -/
def toJson (op : Operation) : Json := .string op.name

/-- Reads an operation. -/
def ofJson? : Json → Option Operation := Json.variant? ofName?

end Operation

namespace Aggregation

/-- An aggregate in JSON. -/
def toJson (a : Aggregation) : Json :=
  .object [("field", .string a.field), ("fn", .string a.kind.name)]

/-- Reads an aggregate. -/
def ofJson? : Json → Option Aggregation
  | .object fields => do
    let kind ← Fields.required "fn" (Json.variant? AggregateKind.ofName?) fields
    let field ← Fields.required "field" Json.asString? fields
    return ⟨kind, field⟩
  | .array [.string kind, .string field] => (AggregateKind.ofName? kind).map fun k => ⟨k, field⟩
  | _ => none

end Aggregation

end RowGuard
