import RowGuard.Proofs.Sql.Reflection
import RowGuard.Proofs.Sql.Sent
import RowGuard.Proofs.Store.Reachable

/-!
# A database and a store give the same answers

A query is carried out by a database that reads the text of a statement, and by a store that decides
filters on its records. On a table that reflects the store both give the same answer to every
operation but an aggregate, and the table reflects the store afterwards.

* `Query.selection_settles`: the condition of a statement, under the equality of a database
* `Query.selection_covers`: it is true on the rows the query is about
* `Query.found`: the records that a query is about, in order
* `Reflects.backends_agree`: one query against both
-/

set_option autoImplicit false

namespace RowGuard

open Sql

namespace Query

/-- Whether a query is about a row, under an equality of values. -/
def CoversBy (equal : Json → Json → Bool) (q : Query) (row : Row) : Prop :=
  row.model = q.model.name ∧
    q.filter.holdsBy equal (Subject.field (row.record q.model)) = true ∧
    (q.operation.isById = true → q.id = some row.id)

instance (equal : Json → Json → Bool) (q : Query) (row : Row) : Decidable (q.CoversBy equal row) :=
  inferInstanceAs (Decidable (_ ∧ _ ∧ (_ → _)))

/-- Under an equality that its filter can be compared by, a query is about the same rows. -/
theorem coversBy_iff {equal : Json → Json → Bool} {q : Query} {row : Row}
    (h : q.filter.ComparesBy equal (Subject.field (row.record q.model))) :
    q.CoversBy equal row ↔ q.Covers row := by
  rw [CoversBy, Covers, h.holdsBy_eq]
  rfl

variable {db : Database}

/-- **The condition of a query's statement**, with any values bound after its own, is true on the
rows that the query is about under the equality of the database and false on all others. -/
theorem selection_settles (hread : db.ReadsFields) (q : Query)
    (hq : ∀ name ∈ q.filter.compared, isIdentifier name = true)
    (hid : ¬ (q.operation.isById = true ∧ q.id = none)) : ∃ sel params,
      q.selection = .ok (sel, params) ∧ sel.condition.Proper ∧ ∀ later row,
        db.eval row (params ++ later) sel.expr =
          some (.bool (decide (q.CoversBy db.equal row))) := by
  obtain ⟨cl, more, hrender, hsettles⟩ :=
    q.filter.render_settles q.model hread hq [.text q.model.name]
  have hproper : cl.Proper := (hsettles ⟨0, "", []⟩ []).proper
  rw [selection, hrender]
  by_cases hby : q.operation.isById = true
  · cases hid' : q.id with
    | none => exact absurd ⟨hby, hid'⟩ hid
    | some id =>
      simp only [if_pos hby]
      -- The id is bound after the values of the filter and before any that come later.
      refine ⟨_, _, rfl, hproper, fun later row => ?_⟩
      have hmine := eval_and row (eval_ofModel row q.model.name _)
        (hsettles row (.json (.ofId id) :: later)).eval
      have hbound := Database.param_append ([.text q.model.name] ++ more) (.json (.ofId id)) later
      rw [List.append_assoc]
      refine (eval_and row hmine (eval_hasId row hbound)).trans ?_
      simp [CoversBy, hby, hid', @eq_comm _ id, Bool.and_assoc]
  · simp only [if_neg hby]
    refine ⟨_, _, rfl, hproper, fun later row => ?_⟩
    refine (eval_and row (eval_ofModel row q.model.name _) (hsettles row later).eval).trans ?_
    simp [CoversBy, hby]

/-- **The condition of a query's statement** is true on the rows that the query is about and false
on all others, if the database compares values as filters do. -/
theorem selection_covers (std : db.Standard) (q : Query)
    (hq : ∀ name ∈ q.filter.compared, isIdentifier name = true)
    (hid : ¬ (q.operation.isById = true ∧ q.id = none)) : ∃ sel params,
      q.selection = .ok (sel, params) ∧ sel.condition.Proper ∧ ∀ later row,
        db.eval row (params ++ later) sel.expr = some (.bool (decide (q.Covers row))) := by
  obtain ⟨sel, params, hsel, hproper, hsettles⟩ := q.selection_settles std.field hq hid
  refine ⟨sel, params, hsel, hproper, fun later row => ?_⟩
  rw [hsettles, decide_eq_decide.2 (coversBy_iff fun t _ v _ => std.equal v t.value)]

end Query

/-! ## The records that a store finds -/

namespace Query

/-- The records of a table that a query is about. -/
def found (q : Query) (t : Table) : List Record :=
  (t.rows.filter fun p => q.picks p.1 p.2).map Prod.snd

variable {q : Query} {t : Table}

/-- A query about many records finds those that its filter admits. -/
theorem matching_eq_found (hby : q.operation.isById = false) : t.matching q.filter = q.found t := by
  rw [Table.matching, found, List.filter_map]
  refine congrArg (List.map Prod.snd) (List.filter_congr fun p _ => ?_)
  simp [picks, hby]

/-- A query about one record finds no other. -/
theorem found_byId (h : t.rows.Ascending) (hby : q.operation.isById = true) {id : Int64}
    (hid : q.id = some id) : q.found t = (t.byId id q.filter).toList := by
  have hone : (t.rows.filter fun p => q.picks p.1 p.2) =
      (t.byId id q.filter).toList.map (Prod.mk id) := by
    -- Rows ascend in their keys, so two selections are equal if they have the same members.
    refine (h.filter _).eq_of_mem_iff ?_ fun p => ?_
    · cases t.byId id q.filter with
      | none => exact List.Pairwise.nil
      | some r => exact List.pairwise_singleton _ _
    · obtain ⟨id', r⟩ := p
      rw [List.mem_filter, List.mem_map, ← Keyed.get?_eq_some_iff h]
      simp only [picks, hby, hid, Bool.not_true, Bool.false_or, Bool.and_eq_true,
        decide_eq_true_iff, Option.some.injEq, Option.mem_toList, Table.byId,
        Option.filter_eq_some_iff, Prod.mk.injEq]
      constructor
      · rintro ⟨hrow, hadmits, rfl⟩
        exact ⟨r, ⟨hrow, hadmits⟩, rfl, rfl⟩
      · rintro ⟨r', ⟨hrow, hadmits⟩, rfl, rfl⟩
        exact ⟨hrow, hadmits, rfl⟩
  rw [found, hone, List.map_map]
  exact List.map_id _

end Query

/-! ## Answers of a store -/

namespace Store

variable {s : Store} {now : Timestamp} {q : Query}

/-- A query about many rows is answered by those it finds. -/
theorem answer_many (hc : q.operation ≠ .create) (hby : q.operation.isById = false) :
    (s.execute now q).1 = q.about (q.found (s.table q.model)) := by
  rw [s.answer_execute now q hc hby, Query.matching_eq_found hby]

variable (h : (s.table q.model).rows.Ascending) {id : Int64} (hid : q.id = some id)
include h hid

/-- A look-up and a delete answer with the one record that they find. -/
theorem answer_one (hop : q.operation = .findUnique ∨ q.operation = .delete) :
    (s.execute now q).1 = .ok (.record (q.found (s.table q.model)).head?) := by
  have hby : q.operation.isById = true := by rcases hop with hop | hop <;> rw [hop] <;> rfl
  rw [Query.found_byId h hby hid, Option.head?_toList]
  rcases hop with hop | hop
  · simp only [execute, hop, hid]
  · simp only [execute, hop, hid, Table.delete]
    cases (s.table q.model).byId id q.filter <;> rfl

theorem answer_changed (hop : q.operation = .update) : (s.execute now q).1 =
    .ok (.record ((q.found (s.table q.model)).head?.map (·.apply (q.changes now)))) := by
  rw [Query.found_byId h (by rw [hop]; rfl) hid, Option.head?_toList]
  simp only [execute, hop, hid, Table.update]
  cases (s.table q.model).byId id q.filter <;> rfl

end Store

/-! ## Rows of a table -/

/-- The rows of a table that a query is about. -/
def Query.covered (q : Query) (rows : List Row) : List Row :=
  rows.filter fun row => decide (q.Covers row)

namespace Reflects

variable {rows : List Row} {s : Store}

/-- **The rows that a query covers are the records it finds**, by id. -/
theorem found_eq (h : Reflects rows s) (q : Query) :
    (inOrder (q.covered rows)).map (·.record q.model) = q.found (s.table q.model) := by
  have hpairs := congrArg (List.map Prod.snd) (h.selected q)
  rw [List.map_map] at hpairs
  exact hpairs

theorem length_covered (h : Reflects rows s) (q : Query) :
    (q.covered rows).length = (q.found (s.table q.model)).length := by
  rw [← h.found_eq q, List.length_map, inOrder, List.length_mergeSort]

/-- A query about one record is about one row at most, so order is no matter. -/
theorem covered_byId (h : Reflects rows s) {q : Query} (hby : q.operation.isById = true)
    {id : Int64} (hid : q.id = some id) :
    (q.covered rows).map (·.record q.model) = q.found (s.table q.model) := by
  have hlength := h.length_covered q
  rw [Query.found_byId (h.ascending q.model) hby hid] at hlength
  have hone : inOrder (q.covered rows) = q.covered rows := by
    generalize q.covered rows = covered at hlength
    match covered with
    | [] => exact List.mergeSort_nil
    | [row] => exact List.mergeSort_singleton row
    | _ :: _ :: _ =>
      cases hb : (s.table q.model).byId id q.filter <;> rw [hb] at hlength <;> cases hlength
  rw [← h.found_eq q, hone]

end Reflects

/-! ## What the database does -/

namespace Query

variable {db : Database} {newId : Int64} {now : Timestamp} {q : Query} {params : List Param}
  {condition : Expr} (rows : List Row)

section Performed

variable (hcondition : ∀ row, db.eval row params condition = some (.bool (decide (q.Covers row))))
include hcondition

/-- `SELECT` returns the covered rows by id, or the first of them, and changes none. -/
theorem perform_select (first : Bool) : db.perform newId params rows (.select condition first) =
    some (returned (if first then (inOrder (q.covered rows)).take 1
      else inOrder (q.covered rows)), rows) := by
  rw [Database.perform, Database.where?_of_eval hcondition]
  rfl

theorem perform_count : db.perform newId params rows (.count condition) =
    some (.rows ["n"] [[("n", .int (q.covered rows).length)]] 1, rows) := by
  rw [Database.perform, Database.where?_of_eval hcondition]
  rfl

theorem perform_update {n : Nat} (hbound : bound? params n = some (.json (.object (q.changes now))))
    (hop : q.operation = .update ∨ q.operation = .updateMany) :
    db.perform newId params rows (.update n condition) =
      some (returned ((q.covered rows).map (·.overwrite (q.changes now))),
        rows.filterMap (q.afterRow now)) := by
  have hafter : q.afterRow now = fun row =>
      some (if decide (q.Covers row) = true then row.overwrite (q.changes now) else row) := by
    funext row
    have hleaves : q.leavesRow now row = some (row.overwrite (q.changes now)) := by
      unfold leavesRow
      rcases hop with hop | hop <;> rw [hop]
    rw [afterRow, hleaves]
    by_cases hcovers : q.Covers row
    · rw [if_pos hcovers, if_pos (decide_eq_true hcovers)]
    · rw [if_neg hcovers, if_neg (by rwa [decide_eq_true_iff])]
  rw [Database.perform, hbound, hafter, List.filterMap_eq_map']
  simp only [Database.where?_of_eval hcondition]
  rfl

theorem perform_delete (returning : Bool)
    (hop : q.operation = .delete ∨ q.operation = .deleteMany) :
    db.perform newId params rows (.delete condition returning) =
      some (if returning then returned (q.covered rows) else .rows [] [] (q.covered rows).length,
        rows.filterMap (q.afterRow now)) := by
  have hafter : q.afterRow now = Option.guard fun row => !decide (q.Covers row) := by
    funext row
    have hleaves : q.leavesRow now row = none := by
      unfold leavesRow
      rcases hop with hop | hop <;> rw [hop]
    rw [afterRow, hleaves, Option.guard]
    by_cases hcovers : q.Covers row <;> simp [hcovers]
  rw [Database.perform, hafter, List.filterMap_eq_filter, Database.where?_of_eval hcondition]
  rfl

end Performed

/-- `INSERT` adds a row at the end, under an identifier that no row has. -/
theorem perform_insert {fields : Fields} (hnew : ∀ row ∈ rows, row.id ≠ newId) (m : String) :
    db.perform newId [.text m, .json (.object fields)] rows (.insert 1 2) =
      some (returned [⟨newId, m, fields⟩], rows ++ [⟨newId, m, fields⟩]) := by
  have hfree : newId ∉ rows.map Row.id := by
    rw [List.mem_map]
    rintro ⟨row, hrow, hid⟩
    exact hnew row hrow hid
  show (if newId ∈ rows.map Row.id then none else some _) = _
  rw [if_neg hfree]

/-- No statement is sent for a query about one record that does not say which. -/
theorem statement_no_id (hq : ∀ name ∈ q.filter.compared, isIdentifier name = true)
    (hby : q.operation.isById = true) (hid : q.id = none) (now : Timestamp) :
    q.statement now = .error (.invalidInput (q.operation.inspect ++ " requires an id")) := by
  obtain ⟨cl, more, hrender, -⟩ := q.filter.render_binds hq [.text q.model.name]
  simp only [statement, selection, hrender, if_pos hby, hid]

end Query

/-! ## One query against both -/

namespace Query

variable {db : Database} {newId : Int64} {now : Timestamp} {q : Query} {rows rows' : List Row}

theorem executeWith_serve {stmt : Statement} {params : List Param} {sentence : Sentence}
    {reply : Reply} (hstmt : q.statement now = .ok (stmt, params))
    (hread : Sentence.read stmt.tokens = some sentence)
    (hperform : db.perform newId params rows sentence = some (reply, rows')) :
    q.executeWith (db.serve newId) now rows = (reply.output q.model q.operation, rows') := by
  rw [executeWith_of_ok _ now hstmt, Database.serve_statement hread hperform]

end Query

namespace Reflects

variable {db : Database} {rows : List Row} {s : Store}

/-- **A database and a store agree on a query**: they give the same answer, which is an error only
if the query is invalid, and the table reflects the store afterwards. -/
structure Agree (db : Database) (newId : Int64) (now : Timestamp) (q : Query) (rows : List Row)
    (s : Store) : Prop where
  answer : (q.executeWith (db.serve newId) now rows).1 = (s.execute now q).1
  reflects : Reflects (q.executeWith (db.serve newId) now rows).2 (s.execute now q).2
  invalid : ∀ e, (s.execute now q).1 = .error e → ∃ reason, e = .invalidInput reason

variable {now : Timestamp} {newId : Int64} {q : Query}

/-- Both sides agree on a query that both refuse as invalid: neither changes anything. -/
theorem agree_of_invalid (h : Reflects rows s) {reason : String}
    (hstmt : q.statement now = .error (.invalidInput reason))
    (hanswer : (s.execute now q).1 = .error (.invalidInput reason)) :
    Agree db newId now q rows s := by
  have hrun := Query.executeWith_of_error (db.serve newId) now hstmt rows
  refine ⟨?_, ?_, fun e he => ⟨reason, ?_⟩⟩
  · rw [hrun, hanswer]
  · rw [hrun, Store.execute_error hanswer]
    exact h
  · exact (Except.error.inj (hanswer.symm.trans he)).symm

/-- Both sides agree on a query that both answer, if the table reflects the store afterwards. -/
theorem agree_of_ok {rows' : List Row} {reply : Reply} {out : Output}
    (hrun : q.executeWith (db.serve newId) now rows = (reply.output q.model q.operation, rows'))
    (houtput : reply.output q.model q.operation = .ok out)
    (hanswer : (s.execute now q).1 = .ok out) (hreflects : Reflects rows' (s.execute now q).2) :
    Agree db newId now q rows s := by
  refine ⟨?_, ?_, fun e he => nomatch hanswer.symm.trans he⟩
  · rw [hrun, houtput, hanswer]
  · rw [hrun]
    exact hreflects

/-- **Both agree on a create**: with no data both refuse it, and otherwise both file the prepared
record under the new identifier. -/
theorem agree_create (h : Reflects rows s)
    (hnames : ∀ name ∈ q.filter.compared, isIdentifier name = true) (hop : q.operation = .create)
    (hnext : newId = (s.table q.model).lastId + 1) (hnew : ∀ row ∈ rows, row.id ≠ newId) :
    Agree db newId now q rows s := by
  have hid : ¬ (q.operation.isById = true ∧ q.id = none) := by
    rw [hop]
    exact fun hby => nomatch hby.1
  obtain ⟨sel, params, hsel, -⟩ := q.selection_binds hnames hid
  cases hdata : q.data with
  | none =>
    have hstmt : q.statement now = .error (.invalidInput "create requires data") := by
      simp only [Query.statement, hsel, hop, hdata]
    exact agree_of_invalid h hstmt (Store.answer_undrafted now s hop hdata)
  | some data =>
    have hstmt : q.statement now = .ok
        (.insert, [.text q.model.name, .json (.object (prepareInsert now data))]) := by
      simp only [Query.statement, hsel, hop, hdata]
    refine agree_of_ok (Query.executeWith_serve hstmt Statement.read_insert
      (Query.perform_insert rows hnew q.model.name)) ?_ (Store.answer_drafted now s hop hdata)
        (h.create now hop hdata hnext hnew)
    have hrecord := record_cells q.model ⟨newId, q.model.name, prepareInsert now data⟩
    rw [hop, ← hnext]
    exact congrArg (Except.map fun r => Output.record (some r)) hrecord

section Found

variable (h : Reflects rows s) {sel : Selection} {params : List Param}
  (hsel : q.selection = .ok (sel, params)) (hproper : sel.condition.Proper)
  (hcovers : ∀ later row,
    db.eval row (params ++ later) sel.expr = some (.bool (decide (q.Covers row))))
include h hsel hproper hcovers

/-- Both agree on a look-up by id and on one by filter, which ask for the first row. -/
theorem agree_first (hop : q.operation = .findUnique ∨ q.operation = .findFirst)
    (hanswer : (s.execute now q).1 = .ok (.record (q.found (s.table q.model)).head?)) :
    Agree db newId now q rows s := by
  have hstmt : q.statement now = .ok (.select sel true, params ++ []) := by
    rw [List.append_nil]
    rcases hop with hop | hop <;> simp only [Query.statement, hsel, hop]
  have hread : q.operation.action = .read := by rcases hop with hop | hop <;> rw [hop] <;> rfl
  refine agree_of_ok (Query.executeWith_serve hstmt (Statement.read_select sel true hproper)
    (Query.perform_select rows (hcovers []) true)) ?_ hanswer ?_
  · have hfirst := firstRecord_cells q.model ((inOrder (q.covered rows)).take 1)
    have hfound : ((inOrder (q.covered rows)).take 1).map (·.record q.model) =
        (q.found (s.table q.model)).take 1 := by rw [List.map_take, h.found_eq q]
    rw [hfound, List.head?_take, if_neg Nat.one_ne_zero] at hfirst
    rcases hop with hop | hop <;> rw [hop] <;> exact hfirst
  · rw [Store.execute_read now q s hread]
    exact h

theorem agree_findMany (hop : q.operation = .findMany) : Agree db newId now q rows s := by
  have hstmt : q.statement now = .ok (.select sel false, params ++ []) := by
    simp only [Query.statement, hsel, hop, List.append_nil]
  have hanswer : (s.execute now q).1 = .ok (.records (q.found (s.table q.model))) := by
    rw [Store.answer_many (by rw [hop]; decide) (by rw [hop]; rfl), Query.about, hop]
  refine agree_of_ok (Query.executeWith_serve hstmt (Statement.read_select sel false hproper)
    (Query.perform_select rows (hcovers []) false)) ?_ hanswer ?_
  · have hall := mapM_cells q.model (inOrder (q.covered rows))
    rw [h.found_eq q] at hall
    rw [hop]
    exact congrArg (Except.map Output.records) hall
  · rw [Store.execute_read now q s (by rw [hop]; rfl)]
    exact h

/-- Both agree on how many records there are, if these can be counted in a signed word. -/
theorem agree_count (hop : q.operation = .count) (hrows : rows.length < 2 ^ 63) :
    Agree db newId now q rows s := by
  have hstmt : q.statement now = .ok (.count sel, params ++ []) := by
    simp only [Query.statement, hsel, hop, List.append_nil]
  have hanswer : (s.execute now q).1 = .ok (.count (q.covered rows).length) := by
    rw [Store.answer_many (by rw [hop]; decide) (by rw [hop]; rfl), Query.about, hop,
      h.length_covered]
  have hsmall : (q.covered rows).length < 2 ^ 63 :=
    Nat.lt_of_le_of_lt (List.length_filter_le _ _) hrows
  refine agree_of_ok (Query.executeWith_serve hstmt (Statement.read_count sel hproper)
    (Query.perform_count rows (hcovers []))) ?_ hanswer ?_
  · rw [hop]
    exact output_count q.model hsmall
  · rw [Store.execute_read now q s (by rw [hop]; rfl)]
    exact h

theorem agree_update (hop : q.operation = .update ∨ q.operation = .updateMany) {out : Output}
    (houtput : (returned ((q.covered rows).map (·.overwrite (q.changes now)))).output q.model
      q.operation = .ok out)
    (hanswer : (s.execute now q).1 = .ok out) : Agree db newId now q rows s := by
  have hstmt : q.statement now = .ok (.update (params.length + 1) sel,
      params ++ [.json (.object (q.changes now))]) := by
    rcases hop with hop | hop <;> simp only [Query.statement, hsel, hop, Query.changes]
  have hbound := bound?_append params (.json (.object (q.changes now))) []
  have hc : q.operation ≠ .create := by rcases hop with hop | hop <;> rw [hop] <;> decide
  exact agree_of_ok (Query.executeWith_serve hstmt (Statement.read_update _ sel hproper)
    (Query.perform_update rows (hcovers _) hbound hop)) houtput hanswer (h.change now hc)

theorem agree_updateOne (hop : q.operation = .update) {id : Int64} (hid : q.id = some id) :
    Agree db newId now q rows s := by
  refine agree_update h hsel hproper hcovers (.inl hop) ?_
    (Store.answer_changed (h.ascending q.model) hid hop)
  have hone := h.covered_byId (by rw [hop]; rfl) hid
  have hchanged : ((q.covered rows).map (·.overwrite (q.changes now))).map (·.record q.model) =
      (q.found (s.table q.model)).map (·.apply (q.changes now)) := by
    rw [← hone, List.map_map, List.map_map]
    exact List.map_congr_left fun row _ => row.record_overwrite q.model now _
  have hfirst := firstRecord_cells q.model ((q.covered rows).map (·.overwrite (q.changes now)))
  rw [hchanged, List.head?_map] at hfirst
  rw [hop]
  exact hfirst

/-- Both agree on an update by filter, which answers with how many it changed. -/
theorem agree_updateMany (hop : q.operation = .updateMany) : Agree db newId now q rows s := by
  have hanswer : (s.execute now q).1 = .ok (.count (q.covered rows).length) := by
    rw [Store.answer_many (by rw [hop]; decide) (by rw [hop]; rfl), Query.about, hop,
      h.length_covered]
  refine agree_update h hsel hproper hcovers (.inr hop) ?_ hanswer
  rw [hop]
  show Except.ok (Output.count (List.length _)) = _
  rw [List.length_map, List.length_map]

/-- Both agree on a delete by id, which answers with the record as it was. -/
theorem agree_delete (hop : q.operation = .delete) {id : Int64} (hid : q.id = some id) :
    Agree db newId now q rows s := by
  have hstmt : q.statement now = .ok (.delete sel true, params ++ []) := by
    simp only [Query.statement, hsel, hop, List.append_nil]
  refine agree_of_ok (Query.executeWith_serve hstmt (Statement.read_delete sel true hproper)
    (Query.perform_delete rows (hcovers []) true (.inl hop))) ?_
      (Store.answer_one (h.ascending q.model) hid (.inr hop)) (h.change now (by rw [hop]; decide))
  have hfirst := firstRecord_cells q.model (q.covered rows)
  rw [h.covered_byId (by rw [hop]; rfl) hid] at hfirst
  rw [hop]
  exact hfirst

/-- Both agree on a delete by filter, which answers with how many it deleted. -/
theorem agree_deleteMany (hop : q.operation = .deleteMany) : Agree db newId now q rows s := by
  have hstmt : q.statement now = .ok (.delete sel false, params ++ []) := by
    simp only [Query.statement, hsel, hop, List.append_nil]
  have hanswer : (s.execute now q).1 = .ok (.count (q.covered rows).length) := by
    rw [Store.answer_many (by rw [hop]; decide) (by rw [hop]; rfl), Query.about, hop,
      h.length_covered]
  refine agree_of_ok (Query.executeWith_serve hstmt (Statement.read_delete sel false hproper)
    (Query.perform_delete rows (hcovers []) false (.inr hop))) ?_ hanswer
      (h.change now (by rw [hop]; decide))
  rw [hop]
  rfl

end Found

/-- **A database and a store agree** on every query but an aggregate, given the same clock reading
and, for a new row, the same identifier, which no row has. `COUNT` is a signed word, so it cannot
tell of `2 ^ 63` rows. -/
theorem backends_agree (std : db.Standard) (h : Reflects rows s) (now : Timestamp) (newId : Int64)
    (q : Query) (hop : q.operation ≠ .aggregate)
    (hnames : ∀ name ∈ q.filter.compared, isIdentifier name = true)
    (hcount : q.operation = .count → rows.length < 2 ^ 63)
    (hcreate : q.operation = .create →
      newId = (s.table q.model).lastId + 1 ∧ ∀ row ∈ rows, row.id ≠ newId) :
    Agree db newId now q rows s := by
  -- Without the id that it needs a query is refused before either side looks at a row.
  by_cases hmissing : q.operation.isById = true ∧ q.id = none
  · obtain ⟨hby, hid⟩ := hmissing
    exact agree_of_invalid h (Query.statement_no_id hnames hby hid now)
      (Store.answer_no_id now s hby hid)
  obtain ⟨sel, params, hsel, hproper, hcovers⟩ := q.selection_covers std hnames hmissing
  have hnamed : q.operation.isById = true → ∃ id, q.id = some id :=
    fun hby => Option.ne_none_iff_exists'.1 fun hid => hmissing ⟨hby, hid⟩
  cases hop' : q.operation with
  | aggregate => exact absurd hop' hop
  | create => exact agree_create h hnames hop' (hcreate hop').1 (hcreate hop').2
  | findUnique =>
    obtain ⟨id, hid⟩ := hnamed (by rw [hop']; rfl)
    exact agree_first h hsel hproper hcovers (.inl hop')
      (Store.answer_one (h.ascending q.model) hid (.inl hop'))
  | findFirst =>
    have hanswer : (s.execute now q).1 = .ok (.record (q.found (s.table q.model)).head?) := by
      rw [Store.answer_many (by rw [hop']; decide) (by rw [hop']; rfl), Query.about, hop']
    exact agree_first h hsel hproper hcovers (.inr hop') hanswer
  | findMany => exact agree_findMany h hsel hproper hcovers hop'
  | count => exact agree_count h hsel hproper hcovers hop' (hcount hop')
  | update =>
    obtain ⟨id, hid⟩ := hnamed (by rw [hop']; rfl)
    exact agree_updateOne h hsel hproper hcovers hop' hid
  | updateMany => exact agree_updateMany h hsel hproper hcovers hop'
  | delete =>
    obtain ⟨id, hid⟩ := hnamed (by rw [hop']; rfl)
    exact agree_delete h hsel hproper hcovers hop' hid
  | deleteMany => exact agree_deleteMany h hsel hproper hcovers hop'

/-- A new post, with an identifier of its own that is not kept. -/
def drafting : Query := Query.create .post [("authorId", .int 5), ("id", .int 99)]

/-- A change to the first post for callers who may change those of user 5. -/
def retitling : Query :=
  { Query.update .post 1 [("id", .int 7), ("title", .string "Ours")] with
    filter := .join .all [.eq "id" (.int 1), .eq "authorId" (.int 5), .ne "title" .null] }

/-- Both sides make the post and rename it. -/
theorem post_drafted_and_renamed :
    let rows := (drafting.executeWith (Database.ordinary.serve 1) Store.dayOne []).2
    let s := (Store.empty.execute Store.dayOne drafting).2
    Reflects rows s ∧ Agree Database.ordinary 2 Store.dayOne retitling rows s ∧
      ∃ r, (s.execute Store.dayOne retitling).1 = .ok (.record (some r)) := by
  have hnames : ∀ name ∈ retitling.filter.compared, isIdentifier name = true := by decide
  have hdrafted := backends_agree Database.ordinary_standard reflects_empty Store.dayOne 1 drafting
    (by decide) (by decide) nofun fun _ => ⟨rfl, nofun⟩
  refine ⟨hdrafted.reflects, ?_, _, rfl⟩
  exact backends_agree Database.ordinary_standard hdrafted.reflects Store.dayOne 2 retitling
    (by decide) hnames nofun nofun

end Reflects

end RowGuard
