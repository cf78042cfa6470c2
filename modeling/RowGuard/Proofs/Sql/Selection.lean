import RowGuard.Proofs.Sql.Condition
import RowGuard.Sql.Statement

/-!
# A selection selects the rows that a query is about

The text of a selection is three conditions in a row: the model, the filter and, for an operation
about one record, the identifier. It is read as all three together, whatever the filter is.

* `Selection.read_text`: nothing in the filter's text binds to what stands around it
* `Query.selection_decides`: the text is true on the rows the query is about and false on all others
-/

set_option autoImplicit false

namespace RowGuard

open Sql

variable {db : Database} (row : Row)

/-- The comparison of the model. -/
def Sql.ofModel : Expr := .binary .equal (.column "model") (.param 1)

/-- The comparison of the identifier with the one bound to a placeholder. -/
def Sql.hasId (n : Nat) : Expr :=
  .binary .equal (.column "id") (.cast (.cast (.param n) "jsonb") "bigint")

namespace Selection

/-- The expression of a selection. -/
def expr (s : Selection) : Expr :=
  match s.id with
  | none => .binary .and ofModel s.condition.expr
  | some n => .binary .and (.binary .and ofModel s.condition.expr) (hasId n)

/-- The condition of a selection is read before what follows, with the comparison of the model open
to its left. -/
theorem read_condition {cl : Clause} (hcl : cl.Proper) {tail : List Char} (hapart : Apart tail)
    {p : Nat} (htail : level (lex tail) = some p) :
    read (lex ("model = $1 AND ".toList ++ (cl.text.toList ++ tail))) =
      readFrom (lex tail) (some cl.expr) [.left .and ofModel] := by
  have hopen : ∀ more, lex ("model = $1 AND ".toList ++ more) =
      .name "model" :: .operator .equal :: .param 1 :: .operator .and :: lex more := fun _ => rfl
  have hweak : Loose [.left .and ofModel] := Nat.le_refl _
  rw [hopen, cl.lex_text hapart]
  exact cl.readFrom_tokens hcl htail hweak

/-- **The text of a selection** is read as its expression: nothing in the condition binds to what
stands around it. -/
theorem read_text (s : Selection) (h : s.condition.Proper) :
    read (lex s.text.toList) = some s.expr := by
  obtain ⟨cl, id⟩ := s
  unfold text
  rw [toList_append_append]
  cases id with
  | none => exact read_condition h apart_nil rfl
  | some n =>
    have hopen : ∀ more, lex (" AND id = (".toList ++ more) =
        .operator .and :: .name "id" :: .operator .equal :: .lparen :: lex more := fun _ => rfl
    have hcast : Apart ("::jsonb)::bigint".toList ++ []) := apart_cons rfl _
    have hlex : lex (" AND id = (".toList ++
        ((placeholder n).toList ++ "::jsonb)::bigint".toList)) =
        [.operator .and, .name "id", .operator .equal, .lparen, .param n, .cast, .name "jsonb",
          .rparen, .cast, .name "bigint"] := by
      rw [← List.append_nil "::jsonb)::bigint".toList, hopen, lex_placeholder n hcast]
      rfl
    have hapart : Apart (" AND id = (".toList ++
        ((placeholder n).toList ++ "::jsonb)::bigint".toList)) := apart_cons rfl _
    rw [toList_append_append, read_condition h hapart (by rw [hlex]; rfl), hlex]
    rfl

end Selection

theorem Sql.eval_ofModel (m : String) (more : List Param) :
    db.eval row (.text m :: more) ofModel = some (.bool (decide (row.model = m))) := rfl

theorem Sql.eval_hasId {n : Nat} {id : Int64} {params : List Param}
    (hid : Database.param params n = some (.json (.ofId id))) :
    db.eval row params (hasId n) = some (.bool (decide (row.id = id))) := by
  have hcast : db.eval row params (.cast (.cast (.param n) "jsonb") "bigint") =
      some (.whole id) := by
    rw [Database.eval, Database.eval, Database.eval, hid]
    show (idOfInt? id.toInt).map Value.whole = _
    rw [idOfInt?_toInt]
    rfl
  rw [hasId, Database.eval, hcast]
  rfl

theorem Sql.eval_and {l r : Expr} {a b : Bool} {params : List Param}
    (hl : db.eval row params l = some (.bool a)) (hr : db.eval row params r = some (.bool b)) :
    db.eval row params (.binary .and l r) = some (.bool (a && b)) := by
  rw [Database.eval, hl, hr]
  exact db.apply_operator .all a b

namespace Query

/-- **Whether a query is about a row**: the row is of its model, its filter admits the record of the
row, and an operation about one record names it. -/
def Covers (q : Query) (row : Row) : Prop :=
  row.model = q.model.name ∧ q.filter.admits (row.record q.model) = true ∧
    (q.operation.isById = true → q.id = some row.id)

instance (q : Query) (row : Row) : Decidable (q.Covers row) :=
  inferInstanceAs (Decidable (_ ∧ _ ∧ (_ → _)))

/-- **The text of a query's selection** decides, with its parameters, which rows the query is about:
it is true on those and false on all others. A query has no such text only if it is about one record
and does not say which. -/
theorem selection_decides (std : db.Standard) (q : Query)
    (hq : ∀ name ∈ q.filter.compared, isIdentifier name = true) :
    (q.operation.isById = true ∧ q.id = none ∧
      q.selection = .error (.invalidInput (q.operation.inspect ++ " requires an id"))) ∨
    ∃ rows params, q.selection = .ok (rows, params) ∧
      ∀ row, db.value row params rows.text = some (.bool (decide (q.Covers row))) := by
  obtain ⟨cl, more, hrender, hdecides⟩ :=
    q.filter.render_decides q.model std hq [.text q.model.name]
  simp only [selection, hrender]
  by_cases hby : q.operation.isById = true
  · rw [if_pos hby]
    cases hid : q.id with
    | none => exact .inl ⟨hby, rfl, rfl⟩
    | some id =>
      refine .inr ⟨_, _, rfl, fun row => ?_⟩
      have hcondition := hdecides row [.json (.ofId id)]
      have hmine := eval_and row (eval_ofModel row q.model.name _) hcondition.eval
      have hbound := Database.param_append ([.text q.model.name] ++ more) (.json (.ofId id)) []
      rw [Database.value, Selection.read_text _ hcondition.proper]
      refine (eval_and row hmine (eval_hasId row hbound)).trans ?_
      simp [Covers, hby, hid, @eq_comm _ id, Bool.and_assoc]
  · rw [if_neg hby]
    refine .inr ⟨_, _, rfl, fun row => ?_⟩
    have hcondition := hdecides row []
    rw [List.append_nil] at hcondition
    rw [Database.value, Selection.read_text _ hcondition.proper]
    refine (eval_and row (eval_ofModel row q.model.name _) hcondition.eval).trans ?_
    simp [Covers, hby]

/-- A change to post 7 for a caller who may make it if the post is theirs and has a note that is more
than a null, or none at all. -/
def changeSeven : Query :=
  { Query.update .post 7 [("note", .string "read")] with
    filter := .join .all [.eq "id" (.int 7), .negate (.eq "note" .null), .ne "note" .null,
      .join .any [.join .any [], .eq "authorId" (.int 5)]] }

/-- Post 7 by the caller, with no note and with another identifier in its data. -/
def rowSeven : Row := ⟨7, "Post", [("authorId", .int 5), ("id", .int 99)]⟩

/-- Row 7 is selected under its own identifier, also for what its absent note is not. With a note
that is null it is not selected, and neither is a user's row. -/
theorem change_selects_row_seven :
    Database.ordinary.Standard ∧ (∀ name ∈ changeSeven.filter.compared, isIdentifier name = true) ∧
      ∃ rows params, changeSeven.selection = .ok (rows, params) ∧
        Database.ordinary.value rowSeven params rows.text = some (.bool true) ∧
        Database.ordinary.value { rowSeven with data := [("authorId", .int 5), ("note", .null)] }
          params rows.text = some (.bool false) ∧
        Database.ordinary.value { rowSeven with model := "User" } params rows.text =
          some (.bool false) := by
  have hnames : ∀ name ∈ changeSeven.filter.compared, isIdentifier name = true := by decide
  refine ⟨Database.ordinary_standard, hnames, ?_⟩
  rcases selection_decides Database.ordinary_standard changeSeven hnames with h | h
  · exact nomatch h.2.1
  · obtain ⟨rows, params, hselection, hvalue⟩ := h
    exact ⟨rows, params, hselection, hvalue rowSeven, hvalue _, hvalue _⟩

end Query

end RowGuard
