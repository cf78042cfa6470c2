import RowGuard.Proofs.Aggregate.Basic
import RowGuard.Proofs.Sql.Backends
import RowGuard.Proofs.Sql.ByValue
import RowGuard.Proofs.Store.Representation

/-!
# The numbers of an aggregate in a database

A database computes an aggregate over the rows that meet a condition and have a number in the field,
which it looks up in their data. The identifier of a row is no part of its data, though it is a
field of its record. So both sides aggregate the same numbers in every field but the identifier, of
which the database finds none.

* `Totals.read`: what a statement for an aggregate says
* `Totals.values?`, `Totals.doubles?`: what the aggregate is computed of
* `Query.totals_agree_iff`: when these are the numbers in the records
-/

set_option autoImplicit false

namespace RowGuard

/-- The aggregate of a function's name. -/
def AggregateKind.ofWord? : String → Option AggregateKind
  | "sum" => some sum
  | "avg" => some avg
  | "min" => some min
  | "max" => some max
  | _ => none

namespace Sql

/-- **What a statement for an aggregate says**: the texts of one field as doubles, over the rows
that meet a condition and have a number in the other field. Fields are given by the placeholders
that their names are bound to. -/
structure Totals where
  kind : AggregateKind
  argument : Nat
  tested : Nat
  condition : Expr

/-- The fields and the condition after the name of the function. -/
def Totals.readOver (kind : AggregateKind) (ts : List Token) : Option Totals :=
  match after (words "((data ->>") ts with
  | some (.param n :: rest) =>
    match after (words "::text)::float8) FILTER (WHERE jsonb_typeof(data ->") rest with
    | some (.param n' :: rest) =>
      match (after (words "::text) = 'number')) AS v FROM records WHERE") rest).bind
        readCondition with
      | some (e, []) => some ⟨kind, n, n', e⟩
      | _ => none
    | _ => none
  | _ => none

/-- **What the tokens of a text say** of an aggregate. -/
def Totals.read (ts : List Token) : Option Totals :=
  match after (words "SELECT to_jsonb(") ts with
  | some (.name f :: rest) => (AggregateKind.ofWord? f).bind fun kind => readOver kind rest
  | _ => none

/-- **What a database makes of values in an aggregate.** -/
structure Measures where
  /-- `jsonb_typeof`. -/
  typeName : Json → String
  /-- The text of a value as a double, which may be refused. -/
  float8 : Json → Option Double

/-- What is expected of them: numbers are told from other values, and a number has the double next
to it, of either sign for zero, unless it is out of range. -/
structure Measures.Standard (m : Measures) : Prop where
  typeName : ∀ v, m.typeName v = "number" ↔ ∃ n, v = .number n
  float8 : ∀ n, (m.float8 (.number n)).map Double.units = n.toDouble?.map Double.units

/-- Measures that are what is expected of them. -/
def Measures.ordinary : Measures where
  typeName
    | .null => "null"
    | .bool _ => "boolean"
    | .number _ => "number"
    | .string _ => "string"
    | .array _ => "array"
    | .object _ => "object"
  float8
    | .number n => n.toDouble?
    | _ => none

theorem Measures.ordinary_standard : ordinary.Standard where
  typeName v := by cases v <;> simp [ordinary]
  float8 _ := rfl

namespace Totals

variable (db : Database) (m : Measures)

/-- **The values that an aggregate is computed of**: the field in the rows that meet the condition
and have a number where one is asked for. -/
def values? (params : List Param) (rows : List Row) (t : Totals) : Option (List Json) :=
  match bound? params t.argument, bound? params t.tested with
  | some (.text name), some (.text name') =>
    (db.where? params t.condition rows).map fun meets =>
      ((rows.filter meets).filter fun row =>
        (db.field (.object row.data) name').any (m.typeName · == "number")).filterMap
          fun row => db.field (.object row.data) name
  | _, _ => none

/-- **The doubles that an aggregate is computed of**; none if a value is refused. -/
def doubles? (params : List Param) (rows : List Row) (t : Totals) : Option (List Double) :=
  (t.values? db m params rows).bind fun vs => vs.mapM m.float8

end Totals

end Sql

open Sql

/-! ## The statement -/

/-- **The statement for an aggregate** is read as it is meant. -/
theorem Statement.read_aggregate (kind : AggregateKind) (field : Nat) (rows : Selection)
    (h : rows.condition.Proper) : Totals.read (aggregate kind field rows).tokens =
      some ⟨kind, field, field, rows.expr⟩ := by
  have hfunction : ∃ f, AggregateKind.ofWord? f = some kind ∧
      words "SELECT " ++ words ("to_jsonb(" ++ kind.function ++ "((data ->> ") =
        words "SELECT to_jsonb(" ++ .name f :: words "((data ->>" := by
    cases kind with
    | sum => exact ⟨"sum", rfl, by decide +kernel⟩
    | avg => exact ⟨"avg", rfl, by decide +kernel⟩
    | min => exact ⟨"min", rfl, by decide +kernel⟩
    | max => exact ⟨"max", rfl, by decide +kernel⟩
  obtain ⟨f, hf, hwords⟩ := hfunction
  have hfilter : words "::text)::float8) FILTER (WHERE jsonb_typeof(data -> " =
      words "::text)::float8) FILTER (WHERE jsonb_typeof(data ->" :=
    words_append_blank "::text)::float8) FILTER (WHERE jsonb_typeof(data ->"
  have hwhere : words "::text) = 'number')) AS v FROM records WHERE " =
      words "::text) = 'number')) AS v FROM records WHERE" :=
    words_append_blank "::text) = 'number')) AS v FROM records WHERE"
  have htokens : (aggregate kind field rows).tokens = words "SELECT to_jsonb(" ++ .name f ::
      (words "((data ->>" ++ .param field ::
        (words "::text)::float8) FILTER (WHERE jsonb_typeof(data ->" ++ .param field ::
          (words "::text) = 'number')) AS v FROM records WHERE" ++
            (rows.tokens ++ words "")))) := by
    rw [tokens, aggregateTokens, ← List.append_assoc (words "SELECT ") (words (_ ++ _ ++ _)),
      hwords, hfilter, hwhere]
    simp only [List.append_assoc, List.cons_append]
  have htail : ∀ t, (words "").head? = some t → endsCondition t = true := by
    intro t ht
    cases ht
  rw [htokens, Totals.read, after_append]
  simp only [hf, Option.bind_some, Totals.readOver, after_append,
    rows.readCondition_tokens h htail]
  rfl

/-! ## The numbers -/

/-- The number in a field of a row's data. -/
def Sql.Row.number? (name : String) (row : Row) : Option Number :=
  match row.data.get? name with
  | some (.number n) => some n
  | _ => none

/-- The numbers in a field of records are those in the data of their rows, but for identifiers. -/
theorem numbersIn_records (model : SubjectType) {field : String} (hfield : field ≠ "id")
    (rows : List Row) : numbersIn field (rows.map (·.record model)) =
      rows.filterMap (·.number? field) := by
  rw [numbersIn, List.filterMap_map]
  refine List.filterMap_congr fun row _ => ?_
  have hget : (row.record model).data.get? field = row.data.get? field :=
    (row.field_record model field).trans (if_neg hfield)
  rw [Function.comp_apply, hget]
  rfl

/-- Every record has its identifier for a number. -/
theorem numbersIn_id (model : SubjectType) (rows : List Row) :
    numbersIn "id" (rows.map (·.record model)) = rows.map fun row => .int row.id.toInt := by
  rw [numbersIn, List.filterMap_map, ← List.filterMap_eq_map]
  refine List.filterMap_congr fun row _ => ?_
  have hget : (row.record model).data.get? "id" = some (.ofId row.id) :=
    (row.field_record model "id").trans (if_pos rfl)
  rw [Function.comp_apply, hget]
  rfl

theorem numbersIn_perm (field : String) {rs rs' : List Record} (h : rs.Perm rs') :
    (numbersIn field rs).Perm (numbersIn field rs') := h.filterMap _

namespace Sql.Totals

variable {db : Database} {m : Measures}

/-- **The values of an aggregate** are the numbers in the data of the rows that are selected. -/
theorem values?_of_eval (hread : db.ReadsFields) (hm : m.Standard) {params : List Param}
    {condition : Expr} {P : Row → Bool}
    (hcondition : ∀ row, db.eval row params condition = some (.bool (P row))) {n : Nat}
    {name : String} (hbound : bound? params n = some (.text name)) (kind : AggregateKind)
    (rows : List Row) : values? db m params rows ⟨kind, n, n, condition⟩ =
      some (((rows.filter P).filterMap (·.number? name)).map Json.number) := by
  have hrow : ∀ row : Row, (if (db.field (.object row.data) name).any (m.typeName · == "number")
      then db.field (.object row.data) name else none) = (row.number? name).map Json.number := by
    intro row
    rw [hread, Row.number?]
    cases row.data.get? name with
    | none => rfl
    | some v =>
      cases v with
      | number x => exact if_pos (beq_iff_eq.2 ((hm.typeName _).2 ⟨x, rfl⟩))
      | null | bool _ | string _ | array _ | object _ =>
        refine if_neg fun h => ?_
        exact nomatch (hm.typeName _).1 (beq_iff_eq.1 h)
  simp only [values?, hbound, Database.where?_of_eval hcondition, Option.map_some]
  rw [List.filterMap_filter, List.map_filterMap]
  exact congrArg some (List.filterMap_congr fun row _ => hrow row)

end Sql.Totals

/-- **Numbers as doubles** are what the doubles next to them are, by value. -/
theorem Sql.Measures.Standard.mapM_float8 {m : Measures} (hm : m.Standard) (ns : List Number) :
    ((ns.map Json.number).mapM m.float8).map (List.map Double.units) =
      (ns.mapM Number.toDouble?).map (List.map Double.units) := by
  induction ns with
  | nil => rfl
  | cons n rest ih =>
    have hn := hm.float8 n
    rw [List.map_cons, List.mapM_cons, List.mapM_cons]
    cases hd : m.float8 (.number n) <;> cases he : n.toDouble? <;> rw [hd, he] at hn
    · rfl
    · cases hn
    · cases hn
    · rename_i d e
      have hunits : d.units = e.units := Option.some.inj hn
      cases hds : (rest.map Json.number).mapM m.float8 <;>
        cases hes : rest.mapM Number.toDouble? <;> rw [hds, hes] at ih
      · rfl
      · cases ih
      · cases ih
      · rename_i ds es
        have hrest : ds.map Double.units = es.map Double.units := Option.some.inj ih
        show some ((d :: ds).map Double.units) = some ((e :: es).map Double.units)
        rw [List.map_cons, List.map_cons, hunits, hrest]

/-! ## Rows as they are written -/

/-- **Data as a database is given it**: that of a new row, or with changes written over it. -/
inductive Sql.Written : Fields → Prop
  | insert (now : Timestamp) (data : Fields) : Written (prepareInsert now data)
  | update {data : Fields} (now : Timestamp) (changes : Fields) (h : Written data) :
      Written (data.merge (prepareUpdate now changes))

/-- No identifier is written into the data. -/
theorem Sql.Written.get?_id {data : Fields} (h : Written data) : data.get? "id" = none := by
  induction h with
  | insert now data => exact get?_prepareInsert now data "id"
  | update now changes _ ih =>
    rw [Keyed.get?_merge_of_ne (prepareUpdate_ne_id now changes), ih]

/-! ## Both sides -/

namespace Query

/-- A store that the rows reflect aggregates the numbers in their records. -/
theorem numbers_perm {rows : List Row} {s : Store} (h : Reflects rows s) {q : Query}
    (hby : q.operation.isById = false) (field : String) :
    (q.numbers field s).Perm (numbersIn field ((q.covered rows).map (·.record q.model))) := by
  rw [numbers, matching_eq_found hby, ← h.found_eq q]
  exact numbersIn_perm field ((List.mergeSort_perm _ _).map _)

variable {db : Database} {m : Measures}

section Sent

variable (hread : db.ReadsFields) (hm : m.Standard) (q : Query) (hop : q.operation = .aggregate)
  {a : Aggregation} (ha : q.aggregation = some a)
  (hnames : ∀ name ∈ q.filter.compared, isIdentifier name = true) (now : Timestamp)
  (rows : List Row) (hcompared : ∀ row ∈ rows,
    q.filter.ComparesBy db.equal (Subject.field (row.record q.model)))
include hread hm hop ha hnames hcompared

/-- **A query for an aggregate** takes the numbers in the data of the rows that it is about. -/
theorem aggregate_values : ∃ stmt params t, q.statement now = .ok (stmt, params) ∧
    Totals.read (lex stmt.text.toList) = some t ∧ t.kind = a.kind ∧
    t.values? db m params rows =
      some (((q.covered rows).filterMap (·.number? a.field)).map Json.number) := by
  have hby : q.operation.isById = false := by rw [hop]; rfl
  obtain ⟨sel, params, hsel, hproper, hsettles⟩ :=
    q.selection_settles hread hnames fun h => Bool.false_ne_true (hby.symm.trans h.1)
  have hstmt : q.statement now = .ok (.aggregate a.kind (params.length + 1) sel,
      params ++ [.text a.field]) := by
    simp only [statement, hsel, hop, ha]
  refine ⟨_, _, ⟨a.kind, params.length + 1, params.length + 1, sel.expr⟩, hstmt, ?_, rfl, ?_⟩
  · rw [Statement.lex_text, Statement.read_aggregate _ _ _ hproper]
  · have hcovered : (rows.filter fun row => decide (q.CoversBy db.equal row)) = q.covered rows :=
      List.filter_congr fun row hrow => decide_eq_decide.2 (coversBy_iff (hcompared row hrow))
    rw [← hcovered]
    exact Totals.values?_of_eval hread hm (hsettles [.text a.field])
      (bound?_append params (.text a.field) []) a.kind rows

/-- **Both sides aggregate the same numbers** in every field but the identifier. A database takes
the numbers in the data of the rows that the query is about, each as its double; these are the
numbers in their records. It finds no identifiers there, and every record has one. -/
theorem totals_agree_iff (hrows : ∀ row ∈ rows, row.data.get? "id" = none) :
    ∃ stmt params t vs, q.statement now = .ok (stmt, params) ∧
      Totals.read (lex stmt.text.toList) = some t ∧ t.kind = a.kind ∧
      t.values? db m params rows = some vs ∧
      let found := (q.covered rows).map (·.record q.model)
      let ns := numbersIn a.field found
      (a.field ≠ "id" → vs = ns.map .number ∧
        (t.doubles? db m params rows).map (List.map Double.units) =
          (ns.mapM Number.toDouble?).map (List.map Double.units)) ∧
      (a.field = "id" → vs = [] ∧ ns = found.map fun r => .int r.id.toInt) ∧
      (vs.Perm (ns.map .number) ↔ a.field ≠ "id" ∨ found = []) ∧
      ∀ s, Reflects rows s → (q.numbers a.field s).Perm ns := by
  obtain ⟨stmt, params, t, hstmt, hsaid, hkind, hvalues⟩ :=
    q.aggregate_values hread hm hop ha hnames now rows hcompared
  refine ⟨stmt, params, t, _, hstmt, hsaid, hkind, hvalues, ?_⟩
  intro found ns
  have hother : a.field ≠ "id" → (q.covered rows).filterMap (·.number? a.field) = ns :=
    fun hfield => (numbersIn_records q.model hfield _).symm
  -- identifiers are in a column of their own and never in the data
  have hnone : a.field = "id" → (q.covered rows).filterMap (·.number? a.field) = [] := by
    intro hfield
    refine List.filterMap_eq_nil_iff.2 fun row hrow => ?_
    rw [hfield, Row.number?, hrows row (List.mem_filter.1 hrow).1]
  have hid : a.field = "id" → ns = found.map fun r => .int r.id.toInt := by
    intro hfield
    have hids := numbersIn_id q.model (q.covered rows)
    rw [← hfield] at hids
    rw [List.map_map]
    exact hids
  have hby : q.operation.isById = false := by rw [hop]; rfl
  refine ⟨fun hfield => ⟨by rw [hother hfield], ?_⟩, fun hfield => ⟨by rw [hnone hfield]; rfl,
    hid hfield⟩, ?_, fun s h => numbers_perm h hby a.field⟩
  · rw [Totals.doubles?, hvalues, ← hother hfield]
    exact hm.mapM_float8 _
  · by_cases hfield : a.field = "id"
    · rw [hnone hfield, hid hfield, List.map_nil, List.nil_perm, List.map_eq_nil_iff,
        List.map_eq_nil_iff, or_iff_right (not_not_intro hfield)]
    · rw [hother hfield]
      exact iff_of_true (.refl _) (.inl hfield)

end Sent

/-- The sum of the views of all posts but drafts. -/
def viewsOfOthers : Query :=
  { Store.ofViews .sum with filter := .ne "title" (.string "Draft") }

/-- Two posts and a user as they are written, the second post with views that were no number. -/
def writtenRows : List Row :=
  [⟨2, "Post", prepareInsert Store.dayOne [("title", .string "Two"), ("views", .int 3)]⟩,
    ⟨1, "Post", (prepareInsert Store.dayOne [("views", .string "many")]).merge
      (prepareUpdate Store.dayOne [("id", .int 7), ("views", .int 4)])⟩,
    ⟨1, "User", prepareInsert Store.dayOne [("views", .int 9)]⟩]

/-- The views of the two posts are summed up. -/
theorem views_of_two_posts : ∃ stmt params t, viewsOfOthers.statement Store.dayOne =
    .ok (stmt, params) ∧ Totals.read (lex stmt.text.toList) = some t ∧ t.kind = .sum ∧
      t.values? .byValue .ordinary params writtenRows = some [.int 3, .int 4] := by
  have hrows : ∀ row ∈ writtenRows, row.data.get? "id" = none := by
    have hwritten : ∀ row ∈ writtenRows, Written row.data :=
      List.forall_mem_cons.2 ⟨.insert _ _, List.forall_mem_cons.2 ⟨.update _ _ (.insert _ _),
        List.forall_mem_singleton.2 (.insert _ _)⟩⟩
    exact fun row hrow => (hwritten row hrow).get?_id
  have hnames : ∀ name ∈ viewsOfOthers.filter.compared, isIdentifier name = true := by decide
  have hcompared : ∀ field, viewsOfOthers.filter.ComparesBy Json.equal field := by
    intro field t ht v _
    cases List.mem_singleton.1 ht
    cases v <;> rfl
  obtain ⟨stmt, params, t, vs, hstmt, hsaid, hkind, hvalues, hother, -⟩ :=
    totals_agree_iff Database.byValue_byValue.field Measures.ordinary_standard viewsOfOthers rfl
      rfl hnames Store.dayOne writtenRows (fun _ _ => hcompared _) hrows
  have hnumbers : numbersIn "views" ((viewsOfOthers.covered writtenRows).map (·.record .post)) =
      [.int 3, .int 4] := by decide +kernel
  refine ⟨stmt, params, t, hstmt, hsaid, hkind, ?_⟩
  rw [hvalues, (hother (by decide)).1]
  exact congrArg (fun ns => some (ns.map Json.number)) hnumbers

/-- The least identifier of all posts. -/
def leastId : Query :=
  { Query.new .post .aggregate with aggregation := some ⟨.min, "id"⟩ }

/-- **No least identifier is found** in a database that has a post, though its record has one and a
store answers with it. -/
theorem least_id_missed :
    let row : Row := ⟨1, "Post", prepareInsert Store.dayOne []⟩
    let s := (Store.empty.execute Store.dayOne (.create .post [])).2
    (∃ stmt params t, leastId.statement Store.dayOne = .ok (stmt, params) ∧
      Totals.read (lex stmt.text.toList) = some t ∧ t.kind = .min ∧
      t.values? .byValue .ordinary params [row] = some []) ∧
    leastId.Covers row ∧ numbersIn "id" [row.record .post] = [.int 1] ∧
    (s.execute Store.dayOne leastId).1 = .ok (.value (.int 1)) := by
  intro row s
  refine ⟨?_, by decide +kernel, by decide +kernel, ?_⟩
  · obtain ⟨stmt, params, t, hstmt, hsaid, hkind, hvalues⟩ :=
      leastId.aggregate_values Database.byValue_byValue.field Measures.ordinary_standard rfl rfl
        (by decide) Store.dayOne [row] fun _ _ _ ht => nomatch ht
    have hnone : (leastId.covered [row]).filterMap (·.number? "id") = [] := by decide +kernel
    refine ⟨stmt, params, t, hstmt, hsaid, hkind, hvalues.trans ?_⟩
    exact congrArg (fun ns => some (ns.map Json.number)) hnone
  · have hnumbers : leastId.numbers "id" s = [.int 1] := by decide +kernel
    exact Store.answer_aggregate Store.dayOne rfl rfl hnumbers

end Query

end RowGuard
