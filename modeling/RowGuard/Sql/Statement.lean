import RowGuard.Sql.Clause
import RowGuard.Store.Basic

/-!
# Statements for a table of records

Records of every type share one table with the columns `id`, `model` and `data`. A query becomes at
most one statement with numbered parameters.

* `Query.statement`: the statement of a query, or why there is none
* `Statement.text`: its text
-/

set_option autoImplicit false

namespace RowGuard

/-- **Which rows a statement is about**: those of the model bound to `$1` that meet the condition
and, if it is bound, have the identifier. -/
structure Selection where
  condition : Clause
  id : Option Nat

/-- The text of a selection. -/
def Selection.text (s : Selection) : String :=
  "model = $1 AND " ++ s.condition.text ++
    match s.id with
    | some n => " AND id = (" ++ placeholder n ++ "::jsonb)::bigint"
    | none => ""

/-- The function of an aggregate. -/
def AggregateKind.function : AggregateKind → String
  | sum => "SUM"
  | avg => "AVG"
  | min => "MIN"
  | max => "MAX"

/-- **A statement**, with placeholders by number. -/
inductive Statement where
  /-- The selected rows in order of their identifiers, all of them or the first one. -/
  | select (rows : Selection) (first : Bool)
  | count (rows : Selection)
  /-- An aggregate over the numbers in the field whose name is bound to a placeholder. -/
  | aggregate (kind : AggregateKind) (field : Nat) (rows : Selection)
  /-- A new row with the model and the data bound to `$1` and `$2`. -/
  | insert
  /-- The selected rows with the changes bound to a placeholder. -/
  | update (changes : Nat) (rows : Selection)
  /-- Removal of the selected rows, which are returned or only counted. -/
  | delete (rows : Selection) (returning : Bool)

/-- The expression of an aggregate over the numbers in a field. -/
def aggregateText (kind : AggregateKind) (field : Nat) : String :=
  let name := placeholder field ++ "::text"
  "to_jsonb(" ++ kind.function ++ "((data ->> " ++ name ++
    ")::float8) FILTER (WHERE jsonb_typeof(data -> " ++ name ++ ") = 'number')) AS v"

/-- **The text of a statement.** -/
def Statement.text : Statement → String
  | select rows first =>
    "SELECT id, data FROM records WHERE " ++ rows.text ++ " ORDER BY id" ++
      if first then " LIMIT 1" else ""
  | count rows => "SELECT COUNT(*) AS n FROM records WHERE " ++ rows.text
  | aggregate kind field rows =>
    "SELECT " ++ aggregateText kind field ++ " FROM records WHERE " ++ rows.text
  | insert => "INSERT INTO records (model, data) VALUES ($1, $2) RETURNING id, data"
  | update changes rows =>
    "UPDATE records SET data = data || " ++ placeholder changes ++ "::jsonb WHERE " ++ rows.text ++
      " RETURNING id, data"
  | delete rows returning =>
    "DELETE FROM records WHERE " ++ rows.text ++ if returning then " RETURNING id, data" else ""

/-- The columns of the rows that a statement answers with. -/
def Statement.columns : Statement → List String
  | count _ => ["n"]
  | aggregate _ _ _ => ["v"]
  | delete _ false => []
  | _ => ["id", "data"]

/-- The script that sets up the table. -/
def schemaScript : String :=
  "CREATE TABLE IF NOT EXISTS records ( id BIGSERIAL PRIMARY KEY, model TEXT NOT NULL, " ++
    "data JSONB NOT NULL ); CREATE INDEX IF NOT EXISTS idx_records_model ON records (model);"

/-- What is sent to a database. -/
inductive Command where
  | statement (s : Statement) (params : List Param)
  /-- The set-up of the table. -/
  | schema

namespace Query

/-- The rows a query is about, with their parameters. -/
def selection (q : Query) : Result (Selection × List Param) :=
  match q.filter.render [.text q.model.name] with
  | (.error e, _) => .error e
  | (.ok condition, params) =>
    if q.operation.isById then
      match q.id with
      | none => .error (.invalidInput (q.operation.inspect ++ " requires an id"))
      | some id => .ok (⟨condition, some (params.length + 1)⟩, params ++ [.json (.ofId id)])
    else .ok (⟨condition, none⟩, params)

/-- **The statement of a query** at a clock reading, with its parameters. The condition is looked at
before anything else. -/
def statement (now : Timestamp) (q : Query) : Result (Statement × List Param) :=
  match q.selection with
  | .error e => .error e
  | .ok (rows, params) =>
    match q.operation with
    | .findUnique | .findFirst => .ok (.select rows true, params)
    | .findMany => .ok (.select rows false, params)
    | .count => .ok (.count rows, params)
    | .aggregate =>
      match q.aggregation with
      | none => .error (.invalidInput "aggregate requires an aggregation")
      | some a => .ok (.aggregate a.kind (params.length + 1) rows, params ++ [.text a.field])
    | .create =>
      match q.data with
      | none => .error (.invalidInput "create requires data")
      | some data => .ok (.insert, [.text q.model.name, .json (.object (prepareInsert now data))])
    | .update | .updateMany =>
      .ok (.update (params.length + 1) rows,
        params ++ [.json (.object (prepareUpdate now (q.data.getD [])))])
    | .delete => .ok (.delete rows true, params)
    | .deleteMany => .ok (.delete rows false, params)

end Query

end RowGuard
