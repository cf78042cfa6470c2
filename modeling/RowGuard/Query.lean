import RowGuard.Filter.Basic

/-!
# Queries and their answers

A `Query` is one data access: an operation on a model, with the parts that operation needs. An
`Output` is the answer to it, of one of four kinds; a reader that wants one kind refuses the others
with a message that shows what came instead.
-/

set_option autoImplicit false

namespace RowGuard

/-- The kind of a data access. -/
inductive Operation where
  | findUnique
  | findFirst
  | findMany
  | count
  | aggregate
  | create
  | update
  | updateMany
  | delete
  | deleteMany
  deriving DecidableEq

namespace Operation

/-- The written name. -/
def name : Operation → String
  | findUnique => "findUnique"
  | findFirst => "findFirst"
  | findMany => "findMany"
  | count => "count"
  | aggregate => "aggregate"
  | create => "create"
  | update => "update"
  | updateMany => "updateMany"
  | delete => "delete"
  | deleteMany => "deleteMany"

/-- Every operation. -/
def every : List Operation :=
  [findUnique, findFirst, findMany, count, aggregate, create, update, updateMany, delete,
    deleteMany]

/-- The operation with a written name. -/
def ofName? (s : String) : Option Operation := every.find? fun op => op.name == s

/-- The name in messages. -/
def inspect : Operation → String
  | findUnique => "FindUnique"
  | findFirst => "FindFirst"
  | findMany => "FindMany"
  | count => "Count"
  | aggregate => "Aggregate"
  | create => "Create"
  | update => "Update"
  | updateMany => "UpdateMany"
  | delete => "Delete"
  | deleteMany => "DeleteMany"

/-- The action a caller needs for the operation. -/
def action : Operation → Action
  | create => .create
  | update | updateMany => .update
  | delete | deleteMany => .delete
  | findUnique | findFirst | findMany | count | aggregate => .read

/-- Whether the operation is about one record, named by its identifier. -/
def isById : Operation → Bool
  | findUnique | update | delete => true
  | _ => false

end Operation

/-- What an aggregate computes over the numbers in a field. -/
inductive AggregateKind where
  | sum
  | avg
  | min
  | max
  deriving DecidableEq

namespace AggregateKind

/-- The written name. -/
def name : AggregateKind → String
  | sum => "sum"
  | avg => "avg"
  | min => "min"
  | max => "max"

/-- The kind with a written name. -/
def ofName? : String → Option AggregateKind
  | "sum" => some sum
  | "avg" => some avg
  | "min" => some min
  | "max" => some max
  | _ => none

end AggregateKind

/-- An aggregate over one field. Values that are no numbers are skipped. -/
structure Aggregation where
  kind : AggregateKind
  field : String
  deriving DecidableEq

/-- **One data access.** -/
structure Query where
  model : SubjectType
  operation : Operation
  /-- The record, for operations about one. -/
  id : Option Int64
  /-- The records the caller asks for. Guarding a query only ever narrows it. -/
  filter : Filter
  /-- The fields of a new record, or the changes of an update. -/
  data : Option Fields
  aggregation : Option Aggregation

namespace Query

/-- An operation on a model, with nothing else. -/
def new (model : SubjectType) (operation : Operation) : Query :=
  ⟨model, operation, none, .pass, none, none⟩

/-- The record with an identifier. -/
def findUnique (model : SubjectType) (id : Int64) : Query :=
  { new model .findUnique with id := some id }

/-- The records that pass a filter. -/
def findMany (model : SubjectType) (filter : Filter) : Query :=
  { new model .findMany with filter }

/-- The number of records that pass a filter. -/
def count (model : SubjectType) (filter : Filter) : Query := { new model .count with filter }

/-- A new record. -/
def create (model : SubjectType) (data : Fields) : Query :=
  { new model .create with data := some data }

/-- Changes to a record. -/
def update (model : SubjectType) (id : Int64) (data : Fields) : Query :=
  { new model .update with id := some id, data := some data }

/-- Removal of a record. -/
def delete (model : SubjectType) (id : Int64) : Query := { new model .delete with id := some id }

/-- Removal of the records that pass a filter. -/
def deleteMany (model : SubjectType) (filter : Filter) : Query :=
  { new model .deleteMany with filter }

end Query

/-- **The answer to a query.** -/
inductive Output where
  | record (r : Option Record)
  | records (rs : List Record)
  | count (n : Nat)
  /-- An aggregate; null over no numbers. -/
  | value (v : Json)

namespace Output

/-- An answer as messages show it. -/
def inspect : Output → String
  | record none => "Record(None)"
  | record (some r) => "Record(Some(" ++ r.inspect ++ "))"
  | records rs => "Records(" ++ bracketed (rs.map Record.inspect) ++ ")"
  | count n => "Count(" ++ toString n ++ ")"
  | value v => "Value(" ++ v.inspect ++ ")"

/-- The refusal of an answer where another kind was wanted. -/
def mismatch (wanted : String) (got : Output) : Error :=
  .unexpectedOutput (wanted ++ ", got " ++ got.inspect)

/-- The single record of an answer. -/
def toRecord : Output → Result (Option Record)
  | record r => .ok r
  | got => .error (mismatch "single record" got)

/-- The list of records of an answer. -/
def toRecords : Output → Result (List Record)
  | records rs => .ok rs
  | got => .error (mismatch "record list" got)

/-- The count of an answer. -/
def toCount : Output → Result Nat
  | count n => .ok n
  | got => .error (mismatch "count" got)

/-- The aggregate of an answer. -/
def toValue : Output → Result Json
  | value v => .ok v
  | got => .error (mismatch "aggregate" got)

end Output

end RowGuard
