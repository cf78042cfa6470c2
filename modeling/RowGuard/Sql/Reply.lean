import RowGuard.Codec.Fields
import RowGuard.Sql.Statement

/-!
# Replies of a database

A database answers a statement with rows or refuses it. What an operation makes of the rows is
decided here, cell by cell: a column that is not there, a null where a value is needed and data that
is no object are all reported.

* `Reply.output`: the answer to an operation
* `Query.executeWith`: a query against a database
-/

set_option autoImplicit false

namespace RowGuard

/-- **What a database answers.** -/
inductive Reply where
  /-- The statement failed. -/
  | refused (reason : String)
  /-- Rows over some columns, and the number of rows affected. A cell left out of a row is null. -/
  | rows (columns : List String) (cells : List Fields) (affected : Nat)

namespace Reply

/-- A refusal in words. -/
def refusal (reason : String) : String := "error returned from database: " ++ reason

/-- What is said of a missing column. -/
def noColumn (column : String) : String := "no column found for name: " ++ column

/-- What is said of a null where a value is needed. -/
def unexpectedNull (column : String) : String :=
  "error occurred while decoding column \"" ++ column ++
    "\": unexpected null; try decoding as an \x60Option\x60"

/-- What is said when a row is needed and there is none. -/
def noRow : String := "no rows returned by a query that expected to return at least one row"

/-- A cell that may be null. -/
def cell? (columns : List String) (row : Fields) (column : String) : Except String (Option Json) :=
  if columns.contains column then .ok (row.get? column) else .error (noColumn column)

/-- A cell that may not be null. -/
def cell (columns : List String) (row : Fields) (column : String) : Except String Json :=
  match cell? columns row column with
  | .error e => .error e
  | .ok none => .error (unexpectedNull column)
  | .ok (some v) => .ok v

/-- The whole number of a cell. -/
def wholeCell (columns : List String) (row : Fields) (column : String) : Except String Int64 :=
  match cell columns row column with
  | .error e => .error e
  | .ok v =>
    match v.asId? with
    | some n => .ok n
    | none => .error (unexpectedNull column)

/-- An error of the database, after what was being done. -/
def failure {α : Type} (doing : String) (reason : String) : Result α :=
  .error (.database (doing ++ reason))

/-- **The record in a row.** -/
def record (model : SubjectType) (columns : List String) (row : Fields) : Result Record :=
  match wholeCell columns row "id" with
  | .error e => failure "Failed to read id: " e
  | .ok id =>
    match cell columns row "data" with
    | .error e => failure "Failed to read data: " e
    | .ok (.object data) => .ok (Record.new model id data)
    | .ok other =>
      failure "record " (toString id.toInt ++ " has non-object data: " ++ other.text)

/-- The record in the first row, if there is one. -/
def firstRecord (model : SubjectType) (columns : List String) : List Fields → Result Output
  | [] => .ok (.record none)
  | row :: _ => (record model columns row).map fun r => .record (some r)

/-- What an operation was doing when the database failed. -/
def during (operation : Operation) : String := operation.inspect ++ " failed: "

/-- **The answer to an operation**, from the reply to its statement. -/
def output (model : SubjectType) (operation : Operation) : Reply → Result Output
  | refused reason => failure (during operation) (refusal reason)
  | rows columns cells affected =>
    match operation with
    | .findUnique | .findFirst | .update | .delete => firstRecord model columns cells
    | .findMany => (cells.mapM (record model columns)).map .records
    | .count =>
      match cells with
      | [] => failure (during operation) noRow
      | row :: _ =>
        match wholeCell columns row "n" with
        | .error e => failure (during operation) e
        | .ok n => .ok (.count n.toUInt64.toNat)
    | .aggregate =>
      match cells with
      | [] => failure (during operation) noRow
      | row :: _ =>
        match cell? columns row "v" with
        | .error e => failure (during operation) e
        | .ok v => .ok (.value (v.getD .null))
    | .create =>
      match cells with
      | [] => failure (during operation) noRow
      | row :: _ => (record model columns row).map fun r => .record (some r)
    | .updateMany => .ok (.count cells.length)
    | .deleteMany => .ok (.count affected)

/-- The outcome of setting up the table. -/
def schemaOutcome : Reply → Result Unit
  | refused reason => failure "Schema setup failed: " (refusal reason)
  | rows _ _ _ => .ok ()

/-- The error of a connection that was refused. -/
def connectionError (reason : String) : Error :=
  .database ("Failed to connect to database: " ++ refusal reason)

end Reply

/-- **A query against a database** with a state: at most one statement is sent. -/
def Query.executeWith {σ : Type} (send : Command → σ → Reply × σ) (now : Timestamp) (q : Query)
    (s : σ) : Result Output × σ :=
  match q.statement now with
  | .error e => (.error e, s)
  | .ok (stmt, params) =>
    let (reply, s') := send (.statement stmt params) s
    (reply.output q.model q.operation, s')

end RowGuard
