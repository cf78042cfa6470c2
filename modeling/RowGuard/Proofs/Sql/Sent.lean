import RowGuard.Proofs.Sql.Binding
import RowGuard.Sql.Reply

/-!
# What is sent for a query

A query is answered with at most one statement. With the bound values in place of its placeholders
it is the statement that the query means, and nothing but the form of the query is in the text
itself: names, values, identifiers and data are only ever bound.

* `Query.written`: the statement that a query means, with its values
* `Query.statement_binds`: the statement of a query binds them
* `Filter.render_shape`: the condition of a filter is that of its shape
* `Query.sent_well_bound`: what is sent, and when nothing is
-/

set_option autoImplicit false

namespace RowGuard

open Sql

/-! ## Statements with their values -/

namespace Query

/-- The comparison of the identifier, with the identifier. -/
def idWritten : Option Int64 → List Piece
  | some id => plain " AND id = (" ++ .value (.json (.ofId id)) :: plain "::jsonb)::bigint"
  | none => []

/-- The rows that a query is about, with its values. -/
def rowsWritten (q : Query) : List Piece :=
  plain "model = " ++ .value (.text q.model.name) :: plain " AND " ++
    (q.filter.written ++ idWritten (if q.operation.isById then q.id else none))

/-- **The statement that a query means** at a clock reading, with its values. -/
def written (now : Timestamp) (q : Query) : List Piece :=
  match q.operation with
  | .findUnique | .findFirst =>
    plain "SELECT id, data FROM records WHERE " ++ (q.rowsWritten ++ plain " ORDER BY id LIMIT 1")
  | .findMany =>
    plain "SELECT id, data FROM records WHERE " ++ (q.rowsWritten ++ plain " ORDER BY id")
  | .count => plain "SELECT COUNT(*) AS n FROM records WHERE " ++ q.rowsWritten
  | .aggregate =>
    match q.aggregation with
    | none => []
    | some a =>
      plain "SELECT " ++ (plain ("to_jsonb(" ++ a.kind.function ++ "((data ->> ") ++
        (.value (.text a.field) ::
          plain "::text)::float8) FILTER (WHERE jsonb_typeof(data -> " ++ .value (.text a.field) ::
            plain "::text) = 'number')) AS v FROM records WHERE ")) ++ q.rowsWritten
  | .create =>
    plain "INSERT INTO records (model, data) VALUES (" ++ .value (.text q.model.name) ::
      plain ", " ++ .value (.json (.object (prepareInsert now (q.data.getD [])))) ::
        plain ") RETURNING id, data"
  | .update | .updateMany =>
    plain "UPDATE records SET data = data || " ++
      .value (.json (.object (prepareUpdate now (q.data.getD [])))) ::
        plain "::jsonb WHERE " ++ (q.rowsWritten ++ plain " RETURNING id, data")
  | .delete => plain "DELETE FROM records WHERE " ++ (q.rowsWritten ++ plain " RETURNING id, data")
  | .deleteMany => plain "DELETE FROM records WHERE " ++ q.rowsWritten

end Query

/-- A placeholder before fixed words that cast it. -/
theorem Sql.binds_cast_words (start : List Param) {p : Param} {s : String} (type : String)
    (htype : p.type = type) (hcast : (words s).take 2 = [.cast, .name type])
    (hs : '$' ∉ s.toList) :
    Binds start [p] (.param (start.length + 1) :: words s) (.value p :: plain s) := by
  have hwhole := List.all_eq_true.1 (wordsOnly_words hs)
  have hrest : wordsOnly ((words s).drop 2) = true :=
    List.all_eq_true.2 fun t ht => hwhole t (List.mem_of_mem_drop ht)
  have hall := (binds_cast start p).before hrest
  have hwords : words s = .cast :: .name p.type :: (words s).drop 2 := by
    rw [htype]
    exact (List.take_append_drop 2 (words s)).symm.trans (congrArg (· ++ _) hcast)
  rw [plain, hwords]
  exact hall

namespace Query

/-- The first value bound is the name of the model. -/
theorem binds_model (m : String) :
    Binds [] [.text m] (words "model = $1 AND ")
      (plain "model = " ++ .value (.text m) :: plain " AND ") := by
  have hwords : words "model = $1 AND " =
      [.name "model", .operator .equal, .param 1, .operator .and] := by decide +kernel
  rw [hwords]
  refine ⟨fun n => ?_, fun later before rest => ?_⟩
  · simp only [List.mem_cons, List.not_mem_nil, Token.param.injEq, reduceCtorEq, false_or, or_false,
      List.length_nil, List.length_singleton]
    omega
  · have hand := fills_plain ([] ++ ([.text m] ++ later)) [.operator .and] rfl
      (.param 1 :: .operator .equal :: .name "model" :: before) rest
    show Option.map _ (Option.map _ (Option.map _ (fill _ _ ([.operator .and] ++ rest)))) = _
    rw [hand]
    simp only [Option.map_map]
    rfl

/-- The id is bound after the values of the filter. -/
theorem binds_id (start : List Param) (id : Int64) :
    Binds start [.json (.ofId id)] (Selection.idTokens (some (start.length + 1)))
      (idWritten (some id)) := by
  have hplace : Binds start [.json (.ofId id)]
      (.param (start.length + 1) :: words "::jsonb)::bigint") _ :=
    binds_cast_words start "jsonb" rfl (by decide +kernel) (by decide)
  exact hplace.after_words (by decide)

/-- **The selection of a query** binds the model, the names and values of the filter and, for an
operation about one record, its identifier. -/
theorem selection_binds (q : Query) (hq : ∀ name ∈ q.filter.compared, isIdentifier name = true)
    (hid : ¬ (q.operation.isById = true ∧ q.id = none)) : ∃ rows params,
      q.selection = .ok (rows, params) ∧ Binds [] params rows.tokens q.rowsWritten := by
  obtain ⟨cl, more, hrender, hbinds⟩ := q.filter.render_binds hq [.text q.model.name]
  have hmodel := binds_model q.model.name
  rw [selection, hrender, rowsWritten]
  by_cases hby : q.operation.isById = true
  · cases hid' : q.id with
    | none => exact absurd ⟨hby, hid'⟩ hid
    | some id =>
      have hall := hmodel.append (hbinds.append (binds_id ([.text q.model.name] ++ more) id))
      simp only [if_pos hby]
      rw [← List.append_assoc [Param.text _]] at hall
      exact ⟨_, _, rfl, hall⟩
  · simp only [if_neg hby]
    have hnothing : wordsOnly [] = true := rfl
    exact ⟨_, _, rfl, hmodel.append (hbinds.before hnothing)⟩

/-- **The statement of a creation** binds the model and the data as the columns it names. -/
theorem binds_insert (m : String) (data : Json) :
    Binds [] [.text m, .json data] Statement.insert.tokens
      (plain "INSERT INTO records (model, data) VALUES (" ++ .value (.text m) :: plain ", " ++
        .value (.json data) :: plain ") RETURNING id, data") := by
  have hinsert : words "INSERT INTO records (model, data) VALUES (" =
      [.name "insert", .name "into", .name "records", .lparen, .name "model", .comma, .name "data",
        .rparen, .name "values", .lparen] := by decide +kernel
  have hwords : Statement.insert.tokens =
      words "INSERT INTO records (model, data) VALUES (" ++ (.param 1 :: .comma :: .param 2 ::
        words ") RETURNING id, data") := by decide +kernel
  have hclose : wordsOnly (words ") RETURNING id, data") = true := wordsOnly_words (by decide)
  rw [hwords, plain, hinsert]
  refine ⟨fun n => ?_, fun later before rest => ?_⟩
  · have hnot := param_not_mem hclose n
    simp only [List.mem_append, List.mem_cons, List.not_mem_nil, Token.param.injEq, reduceCtorEq,
      false_or, or_false, hnot, List.length_nil, List.length_cons]
    omega
  · have hafter := fills_plain ([] ++ ([.text m, .json data] ++ later))
      (words ") RETURNING id, data") hclose
    rw [List.append_assoc, fills_plain _ _ rfl before]
    show Option.map _ (Option.map _ (Option.map _ (Option.map _
      (fill _ _ (words ") RETURNING id, data" ++ rest))))) = _
    rw [hafter]
    simp only [Option.map_map]
    rfl

/-! ## Queries without a statement -/

/-- **A query that lacks what its operation needs**, or compares a field by no identifier. -/
def Unfit (q : Query) : Prop :=
  (∃ name ∈ q.filter.compared, isIdentifier name = false) ∨
  (q.operation.isById = true ∧ q.id = none) ∨
  (q.operation = .aggregate ∧ q.aggregation = none) ∨
  (q.operation = .create ∧ q.data = none)

/-- **An unfit query has no statement**, and what it lacks is reported as invalid. -/
theorem statement_of_unfit {q : Query} (hq : q.Unfit) (now : Timestamp) :
    ∃ reason, q.statement now = .error (.invalidInput reason) := by
  rw [statement]
  by_cases hnames : ∃ name ∈ q.filter.compared, isIdentifier name = false
  · obtain ⟨reason, params, hrender⟩ := q.filter.render_fails hnames [.text q.model.name]
    rw [selection, hrender]
    exact ⟨reason, rfl⟩
  · have hnames' : ∀ name ∈ q.filter.compared, isIdentifier name = true := by simpa using hnames
    by_cases hid : q.operation.isById = true ∧ q.id = none
    · obtain ⟨cl, more, hrender, -⟩ := q.filter.render_binds hnames' [.text q.model.name]
      simp only [selection, hrender, if_pos hid.1, hid.2]
      exact ⟨_, rfl⟩
    · obtain ⟨rows, params, hselection, -⟩ := q.selection_binds hnames' hid
      rw [hselection]
      rcases hq with h | h | ⟨hop, hnone⟩ | ⟨hop, hnone⟩
      · exact absurd h hnames
      · exact absurd h hid
      · rw [hop]
        simp only [hnone]
        exact ⟨_, rfl⟩
      · rw [hop]
        simp only [hnone]
        exact ⟨_, rfl⟩

/-- **Any other query has a statement** that binds its values. -/
theorem statement_binds {q : Query} (hq : ¬ q.Unfit) (now : Timestamp) : ∃ stmt params,
    q.statement now = .ok (stmt, params) ∧ Binds [] params stmt.tokens (q.written now) := by
  simp only [Unfit, not_or, not_exists, not_and, Bool.not_eq_false] at hq
  obtain ⟨hnames, hid, hnone, hdata⟩ := hq
  obtain ⟨rows, params, hselection, hrows⟩ := q.selection_binds hnames (fun h => hid h.1 h.2)
  have hrows' : Binds [] params (rows.tokens ++ words "") q.rowsWritten := by
    rw [show words "" = [] from rfl, List.append_nil]
    exact hrows
  rw [statement, hselection, written]
  cases hop : q.operation with
  | findUnique | findFirst =>
    exact ⟨_, _, rfl, (hrows.before_words (by decide)).after_words (by decide)⟩
  | findMany => exact ⟨_, _, rfl, (hrows.before_words (by decide)).after_words (by decide)⟩
  | count => exact ⟨_, _, rfl, hrows'.after_words (by decide)⟩
  | aggregate =>
    cases ha : q.aggregation with
    | none => exact absurd ha (hnone hop)
    | some a =>
      have hfunction : '$' ∉ ("to_jsonb(" ++ a.kind.function ++ "((data ->> ").toList := by
        cases a.kind <;> decide
      -- the field is bound once and stands in the text twice
      have hname : Binds params [.text a.field] (.param (params.length + 1) ::
          words "::text)::float8) FILTER (WHERE jsonb_typeof(data -> ") _ :=
        binds_cast_words params "text" rfl (by decide +kernel) (by decide)
      have hagain : Binds params [.text a.field] (.param (params.length + 1) ::
          words "::text) = 'number')) AS v FROM records WHERE ") _ :=
        binds_cast_words params "text" rfl (by decide +kernel) (by decide)
      have hfield := (hname.append_of_same hagain).after_words hfunction
      have hselect := hfield.after_words (by decide : '$' ∉ "SELECT ".toList)
      exact ⟨_, _, rfl, Binds.append_of_later hselect hrows'⟩
  | create =>
    cases hd : q.data with
    | none => exact absurd hd (hdata hop)
    | some data => exact ⟨_, _, rfl, binds_insert _ _⟩
  -- the changes come first in the text but are bound last
  | update | updateMany =>
    have hchanges : Binds params [.json (.object (prepareUpdate now (q.data.getD [])))]
        (.param (params.length + 1) :: words "::jsonb WHERE ") _ :=
      binds_cast_words params "jsonb" rfl (by decide +kernel) (by decide)
    exact ⟨_, _, rfl, Binds.append_of_later (hchanges.after_words (by decide))
      (hrows.before_words (by decide))⟩
  | delete => exact ⟨_, _, rfl, (hrows.before_words (by decide)).after_words (by decide)⟩
  | deleteMany => exact ⟨_, _, rfl, hrows'.after_words (by decide)⟩

end Query

/-! ## What the text tells of a query -/

namespace Filter

mutual

/-- **The shape of a filter**: its comparisons with every value left out, and every name but that of
the identifier. -/
def shape : Filter → Filter
  | const b => const b
  | test op name _ => test op (if name = "id" then "id" else "field") .null
  | join c parts => join c (shapes parts)
  | negate f => negate (shape f)

/-- `shape`, part by part. -/
def shapes : List Filter → List Filter
  | [] => []
  | f :: rest => shape f :: shapes rest

end

/-- The text of a test depends on its form only, and so does how many values it binds. -/
theorem renderTest_shape (op : Comparison) (name : String) (v : Json) {cl : Clause}
    {params params' ps : List Param} (hlength : ps.length = params.length)
    (h : renderTest op name v params = (.ok cl, params')) : ∃ ps',
      renderTest op (if name = "id" then "id" else "field") .null ps = (.ok cl, ps') ∧
        ps'.length = params'.length := by
  have hfield : ¬ (!isIdentifier "field") = true := by decide
  have hid : ¬ (!isIdentifier "id") = true := by decide
  unfold renderTest at h
  split at h
  · cases h
  · split at h
    · next hname =>
      cases h
      refine ⟨ps ++ [.json .null], ?_, by rw [List.length_append, List.length_append, hlength]; rfl⟩
      rw [if_pos hname, renderTest, if_neg hid, if_pos rfl, hlength]
    · next hname =>
      cases h
      refine ⟨ps ++ [.text "field", .json .null], ?_, ?_⟩
      · rw [if_neg hname, renderTest, if_neg hfield, if_neg (by decide), hlength]
      · rw [List.length_append, List.length_append, hlength]
        rfl

mutual

/-- **The condition of a filter** is that of its shape: names and values are in the parameters. -/
theorem render_shape (f : Filter) {cl : Clause} {params params' ps : List Param}
    (hlength : ps.length = params.length) (h : f.render params = (.ok cl, params')) :
    ∃ ps', f.shape.render ps = (.ok cl, ps') ∧ ps'.length = params'.length := by
  match f with
  | const b =>
    cases h
    exact ⟨ps, rfl, hlength⟩
  | test op name v => exact renderTest_shape op name v hlength h
  | join c [] =>
    cases h
    exact ⟨ps, rfl, hlength⟩
  | join c (g :: rest) =>
    rw [render] at h
    split at h
    · next parts params₁ hparts =>
      cases h
      obtain ⟨ps', hshape, hlength'⟩ := renderList_shape (g :: rest) hlength hparts
      refine ⟨ps', ?_, hlength'⟩
      rw [shapes] at hshape
      rw [shape, shapes, render, hshape]
    · cases h
  | negate g =>
    rw [render] at h
    split at h
    · next inner params₁ hinner =>
      cases h
      obtain ⟨ps', hshape, hlength'⟩ := render_shape g hlength hinner
      refine ⟨ps', ?_, hlength'⟩
      rw [shape, render, hshape]
    · cases h

/-- `render_shape`, part by part. -/
theorem renderList_shape (fs : List Filter) {cls : List Clause} {params params' ps : List Param}
    (hlength : ps.length = params.length) (h : renderList fs params = (.ok cls, params')) :
    ∃ ps', renderList (shapes fs) ps = (.ok cls, ps') ∧ ps'.length = params'.length := by
  match fs with
  | [] =>
    cases h
    exact ⟨ps, rfl, hlength⟩
  | f :: rest =>
    rw [renderList] at h
    split at h
    · cases h
    · next cl params₁ hcl =>
      split at h
      · cases h
      · next cls' params₂ hcls =>
        cases h
        obtain ⟨ps₁, hshape, hlength₁⟩ := render_shape f hlength hcl
        obtain ⟨ps₂, hshapes, hlength₂⟩ := renderList_shape rest hlength₁ hcls
        refine ⟨ps₂, ?_, hlength₂⟩
        rw [shapes, renderList, hshape]
        simp only [hshapes]

end

end Filter

namespace Query

/-- **Two queries of one form**: they do the same, aggregate by the same function and have filters
of the same shape. -/
structure SameForm (q q' : Query) : Prop where
  operation : q.operation = q'.operation
  kind : q.operation = .aggregate →
    q.aggregation.map Aggregation.kind = q'.aggregation.map Aggregation.kind
  shape : q.filter.shape = q'.filter.shape

/-- **What a selection is made of**: the condition of the filter and, for an operation about one
record, the comparison with its identifier. -/
theorem selection_cases {q : Query} {rows : Selection} {params : List Param}
    (h : q.selection = .ok (rows, params)) : ∃ cl bound,
      q.filter.render [.text q.model.name] = (.ok cl, bound) ∧
        ((q.operation.isById = false ∧ rows = ⟨cl, none⟩ ∧ params = bound) ∨
          ∃ id, q.operation.isById = true ∧ rows = ⟨cl, some (bound.length + 1)⟩ ∧
            params = bound ++ [.json (.ofId id)]) := by
  rw [selection] at h
  split at h
  · cases h
  next cl bound hcl =>
  refine ⟨cl, bound, hcl, ?_⟩
  cases hby : q.operation.isById with
  | false =>
    simp only [hby, Bool.false_eq_true, if_false] at h
    cases h
    exact .inl ⟨rfl, rfl, rfl⟩
  | true =>
    simp only [hby, if_true] at h
    cases hid : q.id with
    | none => exact nomatch hid ▸ h
    | some id =>
      simp only [hid] at h
      cases h
      exact .inr ⟨id, rfl, rfl, rfl⟩

/-- **Queries of one form have one condition**, with as many values bound. -/
theorem selection_congr {q q' : Query} (h : q.SameForm q') {rows rows' : Selection}
    {params params' : List Param} (hq : q.selection = .ok (rows, params))
    (hq' : q'.selection = .ok (rows', params')) :
    rows = rows' ∧ params.length = params'.length := by
  obtain ⟨cl, bound, hcl, hrows⟩ := selection_cases hq
  obtain ⟨cl', bound', hcl', hrows'⟩ := selection_cases hq'
  -- both conditions are that of the one shape
  have hone : [Param.text q'.model.name].length = [Param.text q.model.name].length := rfl
  obtain ⟨ps, hshape, hlength⟩ := q.filter.render_shape hone hcl
  obtain ⟨ps', hshape', hlength'⟩ := q'.filter.render_shape rfl hcl'
  rw [h.shape, hshape'] at hshape
  cases hshape
  have hbound : bound.length = bound'.length := hlength.symm.trans hlength'
  rw [← h.operation] at hrows'
  rcases hrows with ⟨hby, rfl, rfl⟩ | ⟨id, hby, rfl, rfl⟩
  · rcases hrows' with ⟨-, rfl, rfl⟩ | ⟨-, hby', -⟩
    · exact ⟨rfl, hbound⟩
    · exact nomatch hby.symm.trans hby'
  · rcases hrows' with ⟨hby', -⟩ | ⟨id', -, rfl, rfl⟩
    · exact nomatch hby.symm.trans hby'
    · refine ⟨by rw [hbound], ?_⟩
      rw [List.length_append, List.length_append, hbound, List.length_singleton,
        List.length_singleton]

/-- **Queries of one form have one statement**, at any two clock readings. -/
theorem statement_congr {q q' : Query} (h : q.SameForm q') {now now' : Timestamp}
    {stmt stmt' : Statement} {params params' : List Param}
    (hq : q.statement now = .ok (stmt, params)) (hq' : q'.statement now' = .ok (stmt', params')) :
    stmt = stmt' := by
  rw [statement] at hq hq'
  split at hq
  · cases hq
  next rows bound hrows =>
  split at hq'
  · cases hq'
  next rows' bound' hrows' =>
  obtain ⟨rfl, hbound⟩ := selection_congr h hrows hrows'
  rw [← h.operation] at hq'
  cases hop : q.operation <;> rw [hop] at hq hq' <;> simp only at hq hq'
  case aggregate =>
    have hkind := h.kind hop
    cases ha : q.aggregation with
    | none => exact nomatch ha ▸ hq
    | some a =>
      cases ha' : q'.aggregation with
      | none => exact nomatch ha' ▸ hq'
      | some a' =>
        rw [ha, ha'] at hkind
        simp only [ha] at hq
        simp only [ha'] at hq'
        cases hq
        cases hq'
        rw [Option.some.inj hkind, hbound]
  case create =>
    split at hq <;> split at hq' <;> cases hq <;> cases hq'
    rfl
  all_goals
    cases hq
    cases hq'
    first | rfl | rw [hbound]

end Query

/-! ## What is sent -/

/-- Not refused as invalid. -/
def Valid {α : Type} (r : Result α) : Prop := ∀ reason, r ≠ .error (.invalidInput reason)

theorem valid_ok {α : Type} (x : α) : Valid (.ok x) := nofun

theorem valid_failure {α : Type} (doing reason : String) :
    Valid (Reply.failure doing reason : Result α) := nofun

theorem Valid.map {α β : Type} {r : Result α} (h : Valid r) (f : α → β) : Valid (r.map f) := by
  cases r with
  | ok x => exact nofun
  | error e => exact fun reason he => h reason (by cases he; rfl)

namespace Reply

/-- What a row is read as is never an invalid query. Nor are the other replies. -/
theorem valid_record (model : SubjectType) (columns : List String) (row : Fields) :
    Valid (record model columns row) := by
  unfold record
  split
  · exact valid_failure _ _
  · split
    · exact valid_failure _ _
    · exact valid_ok _
    · exact valid_failure _ _

theorem valid_firstRecord (model : SubjectType) (columns : List String) (cells : List Fields) :
    Valid (firstRecord model columns cells) := by
  cases cells with
  | nil => exact valid_ok _
  | cons row rest => exact (valid_record model columns row).map _

theorem valid_records (model : SubjectType) (columns : List String) (cells : List Fields) :
    Valid (cells.mapM (record model columns)) := by
  induction cells with
  | nil => exact valid_ok _
  | cons row rest ih =>
    rw [List.mapM_cons]
    cases hrow : record model columns row with
    | error e =>
      intro reason he
      have he : (Except.error e : Result (List Record)) = .error (.invalidInput reason) := he
      cases he
      exact valid_record model columns row reason hrow
    | ok r => exact ih.map (r :: ·)

/-- **No reply to a statement** is an answer that the query was invalid. -/
theorem valid_output (model : SubjectType) (operation : Operation) (reply : Reply) :
    Valid (reply.output model operation) := by
  cases reply with
  | refused reason => exact valid_failure _ _
  | rows columns cells affected =>
    cases operation with
    | findUnique | findFirst | update | delete => exact valid_firstRecord model columns cells
    | findMany => exact (valid_records model columns cells).map _
    | updateMany | deleteMany => exact valid_ok _
    | count =>
      cases cells with
      | nil => exact valid_failure _ _
      | cons row rest =>
        unfold output
        simp only
        split
        · exact valid_failure _ _
        · exact valid_ok _
    | aggregate =>
      cases cells with
      | nil => exact valid_failure _ _
      | cons row rest =>
        unfold output
        simp only
        split
        · exact valid_failure _ _
        · exact valid_ok _
    | create =>
      cases cells with
      | nil => exact valid_failure _ _
      | cons row rest => exact (valid_record model columns row).map _

end Reply

/-- A database that keeps what it is sent. -/
def keeping {σ : Type} (send : Command → σ → Reply × σ) (c : Command) (s : σ × List Command) :
    Reply × σ × List Command :=
  ((send c s.1).1, (send c s.1).2, s.2 ++ [c])

namespace Query

variable {σ : Type} (send : Command → σ → Reply × σ) (now : Timestamp)

/-- What is sent for a query, in order. -/
def sent (q : Query) (s : σ) : List Command := (q.executeWith (keeping send) now (s, [])).2.2

theorem executeWith_of_error {q : Query} {e : Error} (h : q.statement now = .error e) (s : σ) :
    q.executeWith send now s = (.error e, s) := by rw [executeWith, h]

theorem executeWith_of_ok {q : Query} {stmt : Statement} {params : List Param}
    (h : q.statement now = .ok (stmt, params)) (s : σ) : q.executeWith send now s =
      ((send (.statement stmt params) s).1.output q.model q.operation,
        (send (.statement stmt params) s).2) := by rw [executeWith, h]

/-- Nothing is sent for an unfit query. -/
theorem sent_of_unfit {q : Query} (hq : q.Unfit) (s : σ) : q.sent send now s = [] := by
  obtain ⟨reason, herror⟩ := statement_of_unfit hq now
  rw [sent, executeWith_of_error _ now herror]

theorem sent_of_ok {q : Query} {stmt : Statement} {params : List Param}
    (h : q.statement now = .ok (stmt, params)) (s : σ) :
    q.sent send now s = [.statement stmt params] := by
  rw [sent, executeWith_of_ok _ now h]
  rfl

/-- What is sent is the statement of the query. -/
theorem statement_of_sent {q : Query} {s : σ} {stmt : Statement} {params : List Param}
    (h : .statement stmt params ∈ q.sent send now s) : q.statement now = .ok (stmt, params) := by
  by_cases hq : q.Unfit
  · exact nomatch sent_of_unfit send now hq s ▸ h
  · obtain ⟨stmt', params', hstmt, -⟩ := statement_binds hq now
    rw [sent_of_ok send now hstmt s] at h
    cases List.mem_singleton.1 h
    exact hstmt

/-- **Statements are well bound and free of injected text.** At most one is sent, and none exactly
for a query that is answered as invalid, which is one that lacks what its operation needs or
compares a field by no identifier. The placeholders of the text are numbered as the values are, each
value is of the type of its place, and with the values in their places the statement is the one that
the query means. Another query of the same form has the same text. -/
theorem sent_well_bound (q : Query) (s : σ) :
    (q.sent send now s).length ≤ 1 ∧
    (q.sent send now s = [] ↔
      ∃ reason, (q.executeWith send now s).1 = .error (.invalidInput reason)) ∧
    ((∃ reason, (q.executeWith send now s).1 = .error (.invalidInput reason)) ↔ q.Unfit) ∧
    ∀ c ∈ q.sent send now s, ∃ stmt params, c = .statement stmt params ∧
      (∀ n, Token.param n ∈ lex stmt.text.toList ↔ 1 ≤ n ∧ n ≤ params.length) ∧
      fill params [] (lex stmt.text.toList) = some (q.written now) ∧
      ∀ (q' : Query) (now' : Timestamp) (s' : σ) (stmt' : Statement) (params' : List Param),
        q.SameForm q' → .statement stmt' params' ∈ q'.sent send now' s' →
          stmt'.text = stmt.text := by
  by_cases hq : q.Unfit
  · have hsent := sent_of_unfit send now hq s
    obtain ⟨reason, herror⟩ := statement_of_unfit hq now
    have hinvalid : ∃ reason, (q.executeWith send now s).1 = .error (.invalidInput reason) :=
      ⟨reason, by rw [executeWith_of_error send now herror]⟩
    rw [hsent]
    exact ⟨Nat.zero_le 1, iff_of_true rfl hinvalid, iff_of_true hinvalid hq,
      fun c hc => nomatch hc⟩
  · obtain ⟨stmt, params, hstmt, hbinds⟩ := statement_binds hq now
    have hvalid : ¬ ∃ reason, (q.executeWith send now s).1 = .error (.invalidInput reason) := by
      rw [executeWith_of_ok send now hstmt]
      exact fun ⟨reason, h⟩ => Reply.valid_output _ _ _ reason h
    rw [sent_of_ok send now hstmt]
    refine ⟨Nat.le_refl 1, iff_of_false (List.cons_ne_nil _ _) hvalid, iff_of_false hvalid hq,
      fun c hc => ⟨stmt, params, List.mem_singleton.1 hc, ?_, ?_, ?_⟩⟩
    · intro n
      rw [stmt.lex_text, hbinds.used n, List.length_nil]
      omega
    · have hfills := hbinds.fills [] [] []
      rw [List.append_nil, List.append_nil, List.nil_append] at hfills
      rw [stmt.lex_text, hfills]
      exact congrArg some (List.append_nil _)
    · intro q' now' s' stmt' params' hform hsent'
      rw [statement_congr hform hstmt (statement_of_sent send now' hsent')]

-- a value that would end the statement is not in it
example (now : Timestamp) :
    ((Query.findMany .post (.eq "note" (.string "'; DROP TABLE records; --"))).statement now).map
      (fun sent => sent.1.text) = .ok ("SELECT id, data FROM records WHERE model = $1 AND " ++
        "COALESCE((data -> $2::text) = $3::jsonb, FALSE) ORDER BY id") := rfl

end Query

end RowGuard
