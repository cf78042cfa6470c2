import Mathlib.Algebra.Group.Nat.Defs
import RowGuard.Proofs.Sql.Binding
import RowGuard.Proofs.Sql.Sentence
import RowGuard.Sql.Reply

/-!
# What a database does with a statement

A database keeps the rows of the table in no order of its own. `WHERE` takes the rows on which a
condition is true, neither false nor null; `RETURNING` returns the rows as they are after the
statement, or were before their removal. A condition that cannot be evaluated, a value of the wrong
type and an identifier that is taken are refused.

* `Database.perform`: what a sentence does to the rows, and what is answered
* `Database.serve`: a database that reads the statements it is sent
-/

set_option autoImplicit false

namespace RowGuard.Sql

/-- The cells of a row. -/
def Row.cells (row : Row) : Fields := [("data", .object row.data), ("id", .ofId row.id)]

/-- `||`: the row with changes written over its data. -/
def Row.overwrite (row : Row) (changes : Fields) : Row :=
  { row with data := row.data.merge changes }

/-- `ORDER BY id`. -/
def inOrder (rows : List Row) : List Row := rows.mergeSort fun a b => decide (a.id ≤ b.id)

/-- A reply that returns rows. -/
def returned (rows : List Row) : Reply :=
  .rows ["id", "data"] (rows.map Row.cells) rows.length

namespace Database

variable (db : Database) (newId : Int64)

/-- The truth value of a condition on a row: none for null, and none at all if it has no value. -/
def truth? (params : List Param) (condition : Expr) (row : Row) : Option (Option Bool) :=
  (db.eval row params condition).bind Value.truth?

/-- **`WHERE`**: whether a row of a table meets a condition; none if it cannot be told of every
row. -/
def where? (params : List Param) (condition : Expr) (rows : List Row) : Option (Row → Bool) :=
  if rows.all fun row => (db.truth? params condition row).isSome then
    some fun row => db.truth? params condition row == some (some true)
  else none

/-- **What a sentence does to the rows of the table**, and the reply to it; none if it is refused. A
new row takes the identifier that is next. -/
def perform (params : List Param) (rows : List Row) : Sentence → Option (Reply × List Row)
  | .select condition first =>
    (db.where? params condition rows).map fun meets =>
      let found := inOrder (rows.filter meets)
      (returned (if first then found.take 1 else found), rows)
  | .count condition =>
    (db.where? params condition rows).map fun meets =>
      (.rows ["n"] [[("n", .int (rows.filter meets).length)]] 1, rows)
  | .insert model data =>
    match bound? params model, bound? params data with
    | some (.text m), some (.json (.object fields)) =>
      if newId ∈ rows.map Row.id then none
      else some (returned [⟨newId, m, fields⟩], rows ++ [⟨newId, m, fields⟩])
    | _, _ => none
  | .update changes condition =>
    match bound? params changes with
    | some (.json (.object fields)) =>
      (db.where? params condition rows).map fun meets =>
        (returned ((rows.filter meets).map (·.overwrite fields)),
          rows.map fun row => if meets row then row.overwrite fields else row)
    | _ => none
  | .delete condition returning =>
    (db.where? params condition rows).map fun meets =>
      let gone := rows.filter meets
      (if returning then returned gone else .rows [] [] gone.length,
        rows.filter fun row => !meets row)

/-- **A database that reads the statements it is sent.** -/
def serve : Command → List Row → Reply × List Row
  | .statement stmt params, rows =>
    ((Sentence.read (lex stmt.text.toList)).bind (db.perform newId params rows)).getD
      (.refused "syntax error", rows)
  | .schema, rows => (.rows [] [] 0, rows)

variable {db newId}

/-- A database does what the statement that it was sent reads as. -/
theorem serve_statement {stmt : Statement} {sentence : Sentence}
    (hread : Sentence.read stmt.tokens = some sentence) {params : List Param} {rows : List Row}
    {reply : Reply × List Row} (hperform : db.perform newId params rows sentence = some reply) :
    db.serve newId (.statement stmt params) rows = reply := by
  rw [serve, stmt.lex_text, hread, Option.bind_some, hperform]
  rfl

/-- A condition that is true or false on every row. -/
theorem where?_of_eval {params : List Param} {condition : Expr} {P : Row → Bool}
    (h : ∀ row, db.eval row params condition = some (.bool (P row))) (rows : List Row) :
    db.where? params condition rows = some P := by
  have htruth : ∀ row, db.truth? params condition row = some (some (P row)) := by
    intro row
    rw [truth?, h row]
    rfl
  have hall : (rows.all fun row => (db.truth? params condition row).isSome) = true := by
    rw [List.all_eq_true]
    intro row _
    rw [htruth]
    rfl
  rw [where?, if_pos hall]
  refine congrArg some (funext fun row => ?_)
  rw [htruth]
  cases P row <;> rfl

end Database

/-! ## Replies that return rows -/

theorem wholeCell_of_cell {columns : List String} {row : Fields} {column : String} {v : Json}
    {n : Int64} (hcell : Reply.cell columns row column = .ok v) (hv : v.asId? = some n) :
    Reply.wholeCell columns row column = .ok n := by
  rw [Reply.wholeCell, hcell]
  simp only [hv]

/-- **A returned row is read** as the record that it holds. -/
theorem record_cells (model : SubjectType) (row : Row) :
    Reply.record model ["id", "data"] row.cells = .ok (row.record model) := by
  have hid : Reply.wholeCell ["id", "data"] row.cells "id" = .ok row.id :=
    wholeCell_of_cell rfl (idOfInt?_toInt row.id)
  have hdata : Reply.cell ["id", "data"] row.cells "data" = .ok (.object row.data) := rfl
  rw [Reply.record, hid]
  simp only [hdata]
  rfl

/-- Of returned rows the first is read, if there is one. -/
theorem firstRecord_cells (model : SubjectType) (rows : List Row) :
    Reply.firstRecord model ["id", "data"] (rows.map Row.cells) =
      .ok (.record (rows.map (·.record model)).head?) := by
  cases rows with
  | nil => rfl
  | cons row rest =>
    rw [List.map_cons, Reply.firstRecord, record_cells]
    rfl

/-- Returned rows are read in order. -/
theorem mapM_cells (model : SubjectType) (rows : List Row) :
    (rows.map Row.cells).mapM (Reply.record model ["id", "data"]) =
      .ok (rows.map (·.record model)) := by
  induction rows with
  | nil => rfl
  | cons row rest ih =>
    rw [List.map_cons, List.mapM_cons, record_cells, ih]
    rfl

theorem asId?_natCast {n : Nat} (hn : n < 2 ^ 63) : (Json.int n).asId? = some (.ofNat n) := by
  have hrange : -0x8000000000000000 ≤ (n : Int) ∧ (n : Int) < 0x8000000000000000 := by omega
  show idOfInt? n = _
  rw [idOfInt?, if_pos hrange, Int64.ofInt_eq_ofNat]

/-- **A count** is read back as long as it fits a signed word. -/
theorem output_count (model : SubjectType) {n : Nat} (hn : n < 2 ^ 63) :
    Reply.output model .count (.rows ["n"] [[("n", .int n)]] 1) = .ok (.count n) := by
  have hcell : Reply.wholeCell ["n"] [("n", .int n)] "n" = .ok (.ofNat n) :=
    wholeCell_of_cell rfl (asId?_natCast hn)
  have hsize : n < UInt64.size := Nat.lt_trans hn (by decide)
  rw [Reply.output]
  simp only [hcell, Int64.toUInt64_ofNat', UInt64.toNat_ofNat_of_lt' hsize]

end RowGuard.Sql
