import Mathlib.Data.List.Forall2
import RowGuard.Proofs.Filter.Equality
import RowGuard.Proofs.Filter.Meaning
import RowGuard.Proofs.Sql.Clause
import RowGuard.Proofs.Sql.Evaluation

/-!
# A condition decides its filter

A filter is decided twice: in memory, on the record of a row, and by a database, on the row itself
and the values bound to placeholders. A database never comes to null, whether a compared field is
absent, null or the identifier, and both come to the same if they have one equality of values.

* `Clause.eval_compareExpr`: a comparison
* `Clause.eval_tailExpr`: the parts of a combination
* `Filter.render_settles`: the condition of a filter, under the equality of the database
* `Filter.render_decides`: the same for a database that compares values as filters do
-/

set_option autoImplicit false

namespace RowGuard

open Sql

/-- The record of a row. -/
def Sql.Row.record (model : SubjectType) (row : Row) : Record := Record.new model row.id row.data

/-- A row's identifier is a field of its record, in place of what the data may have there. -/
theorem Sql.Row.field_record (model : SubjectType) (row : Row) (name : String) :
    Subject.field (row.record model) name =
      if name = "id" then some (.ofId row.id) else row.data.get? name :=
  Keyed.get?_insert "id" name (Json.ofId row.id) row.data

variable {db : Database} (model : SubjectType) (row : Row)

/-! ## Comparisons -/

theorem Sql.Database.param_append (params : List Param) (p : Param) (later : List Param) :
    Database.param (params ++ p :: later) (params.length + 1) = some (.ofParam p) := by
  rw [Database.param, List.getElem?_append_right (Nat.le_refl _), Nat.sub_self]
  rfl

/-- The operand of a field is null on a row whose data has no such field. -/
theorem Operand.eval_field (hfield : db.ReadsFields) {params : List Param} {n : Nat} {name : String}
    (hname : Database.param params n = some (.text name)) :
    db.eval row params (Operand.field n).expr = some (.ofOption (row.data.get? name)) := by
  have hkey : db.eval row params (.cast (.param n) "text") = some (.text name) := by
    rw [Database.eval, Database.eval, hname]
    rfl
  rw [Operand.expr, Database.eval, Database.eval, hkey]
  exact congrArg (fun v => some (Value.ofOption v)) (hfield row.data name)

namespace Clause

/-- **A comparison in text** is the comparison, whether its operand is null or not. -/
theorem eval_compareExpr (op : Comparison) {left : Operand}
    {actual : Option Json} {value : Nat} {v : Json} {params : List Param}
    (hleft : db.eval row params left.expr = some (.ofOption actual))
    (hvalue : Database.param params value = some (.json v)) :
    db.eval row params (compareExpr op left value) =
      some (.bool (op.holdsBy db.equal actual v)) := by
  have hright : db.eval row params (.cast (.param value) "jsonb") = some (.json v) := by
    rw [Database.eval, Database.eval, hvalue]
    rfl
  cases op with
  | eq =>
    rw [compareExpr, Database.eval, Database.evalList, Database.eval, hleft, hright]
    cases actual <;> rfl
  | ne =>
    rw [compareExpr, Database.eval, hleft, hright]
    cases actual <;> rfl

end Clause

/-- A condition that settles a filter on a row, under the equality of the database. -/
structure Clause.Settles (db : Database) (model : SubjectType) (row : Row) (params : List Param)
    (cl : Clause) (f : Filter) : Prop where
  proper : cl.Proper
  eval : db.eval row params cl.expr =
    some (.bool (f.holdsBy db.equal (Subject.field (row.record model))))

namespace Filter

theorem renderTest_settles (hread : db.ReadsFields) (op : Comparison) {name : String}
    (hname : isIdentifier name = true) (v : Json) (params : List Param) : ∃ cl more,
      renderTest op name v params = (.ok cl, params ++ more) ∧ ∀ row later,
        cl.Settles db model row (params ++ more ++ later) (test op name v) := by
  have hbad : ¬ (!isIdentifier name) = true := by rw [hname]; decide
  rw [renderTest, if_neg hbad]
  by_cases hid : name = "id"
  · -- the identifier has a column of its own, whatever the data has under its name
    rw [if_pos hid]
    refine ⟨_, _, rfl, fun row later => ⟨trivial, ?_⟩⟩
    have hfield : Subject.field (row.record model) name = some (.ofId row.id) := by
      rw [row.field_record, if_pos hid]
    have hvalue := Database.param_append params (.json v) later
    rw [List.append_assoc, holdsBy, hfield]
    exact Clause.eval_compareExpr row op rfl hvalue
  · rw [if_neg hid]
    refine ⟨_, _, rfl, fun row later => ⟨trivial, ?_⟩⟩
    have hfield : Subject.field (row.record model) name = row.data.get? name := by
      rw [row.field_record, if_neg hid]
    have hkey := Database.param_append params (.text name) (.json v :: later)
    have hvalue := Database.param_append (params ++ [.text name]) (.json v) later
    rw [List.append_assoc, List.length_append] at hvalue
    rw [List.append_assoc, holdsBy, hfield]
    exact Clause.eval_compareExpr row op (Operand.eval_field row hread hkey) hvalue

end Filter

/-! ## Combinations -/

theorem Sql.Database.apply_operator (db : Database) (c : Connective) (a b : Bool) :
    db.apply c.operator (.bool a) (.bool b) = some (.bool (c.join a b)) := by
  cases c <;> cases a <;> cases b <;> rfl

namespace Clause

theorem properList_of_settles {params : List Param} {cls : List Clause} {fs : List Filter}
    (h : List.Forall₂ (Clause.Settles db model row params) cls fs) : ProperList cls := by
  induction h with
  | nil => trivial
  | cons hd _ ih => exact ⟨hd.proper, ih⟩

/-- **Parts in text** are the parts under the connective. Grouping to the left is no matter. -/
theorem eval_tailExpr (c : Connective) {params : List Param} {cls : List Clause} {fs : List Filter}
    (h : List.Forall₂ (Clause.Settles db model row params) cls fs) : ∀ {e : Expr} {b : Bool},
    db.eval row params e = some (.bool b) →
      db.eval row params (tailExpr c.operator e cls) = some (.bool (c.join b
        (Filter.holdsJoinBy db.equal (Subject.field (row.record model)) c fs))) := by
  induction h with
  | nil =>
    intro e b he
    rw [tailExpr, Filter.holdsJoinBy, c.join_neutral, he]
  | @cons cl f cls fs hd _ ih =>
    intro e b he
    have hstep : db.eval row params (.binary c.operator e cl.expr) =
        some (.bool (c.join b
          (f.holdsBy db.equal (Subject.field (row.record model))))) := by
      rw [Database.eval, he, hd.eval]
      exact db.apply_operator c _ _
    rw [tailExpr, ih hstep, Filter.holdsJoinBy, c.join_assoc]

end Clause

namespace Filter

mutual

/-- **The condition of a filter** settles it on every row, with any values bound after its own. -/
theorem render_settles (hread : db.ReadsFields) (f : Filter)
    (hf : ∀ name ∈ f.compared, isIdentifier name = true) (params : List Param) :
    ∃ cl more, f.render params = (.ok cl, params ++ more) ∧
      ∀ row later, cl.Settles db model row (params ++ more ++ later) f := by
  match f with
  | const b =>
    refine ⟨.const b, [], ?_, fun row later => ⟨trivial, rfl⟩⟩
    rw [render, List.append_nil]
  | test op name v =>
    exact renderTest_settles model hread op (hf name (List.mem_singleton.2 rfl)) v params
  | join c [] =>
    refine ⟨.const c.neutral, [], ?_, fun row later => ⟨trivial, rfl⟩⟩
    rw [render, List.append_nil]
  | join c (g :: rest) =>
    obtain ⟨cls, more, hrender, hsettles⟩ := renderList_settles hread (g :: rest) hf params
    rw [render, hrender]
    cases cls with
    -- there is a condition for each part, so there is a first one
    | nil => exact nomatch hsettles ⟨0, "", []⟩ []
    | cons cl cls =>
      refine ⟨.join c (cl :: cls), more, rfl, fun row later => ?_⟩
      have ⟨hhead, htail⟩ := List.forall₂_cons.1 (hsettles row later)
      refine ⟨⟨hhead.proper, Clause.properList_of_settles model row htail⟩, ?_⟩
      exact Clause.eval_tailExpr model row c htail hhead.eval
  | negate g =>
    obtain ⟨cl, more, hrender, hsettles⟩ := render_settles hread g hf params
    rw [render, hrender]
    refine ⟨.negate cl, more, rfl, fun row later => ⟨(hsettles row later).proper, ?_⟩⟩
    rw [Clause.expr, Database.eval, (hsettles row later).eval]
    rfl

/-- `render_settles`, part by part. -/
theorem renderList_settles (hread : db.ReadsFields) (fs : List Filter)
    (hfs : ∀ name ∈ comparedList fs, isIdentifier name = true) (params : List Param) :
    ∃ cls more, renderList fs params = (.ok cls, params ++ more) ∧
      ∀ row later, List.Forall₂ (Clause.Settles db model row (params ++ more ++ later)) cls fs := by
  match fs with
  | [] =>
    refine ⟨[], [], ?_, fun row later => .nil⟩
    rw [renderList, List.append_nil]
  | f :: rest =>
    rw [comparedList, List.forall_mem_append] at hfs
    obtain ⟨cl, more, hrender, hsettles⟩ := render_settles hread f hfs.1 params
    obtain ⟨cls, more', hrest, hsettles'⟩ := renderList_settles hread rest hfs.2 (params ++ more)
    rw [renderList, hrender]
    refine ⟨cl :: cls, more ++ more', ?_, fun row later => ?_⟩
    · simp only [hrest, List.append_assoc]
    · have hhead := hsettles row (more' ++ later)
      have htail := hsettles' row later
      simp only [List.append_assoc] at hhead htail ⊢
      exact .cons hhead htail

end

end Filter

/-! ## Decision -/

/-- A condition that decides a filter on a row. -/
structure Clause.Decides (db : Database) (model : SubjectType) (row : Row) (params : List Param)
    (cl : Clause) (f : Filter) : Prop where
  proper : cl.Proper
  eval : db.eval row params cl.expr = some (.bool (f.admits (row.record model)))

/-- With the equality of filters, what settles a filter decides it. -/
theorem Clause.Settles.decides (std : db.Standard) {params : List Param} {cl : Clause} {f : Filter}
    (h : cl.Settles db model row params f) : cl.Decides db model row params f := by
  refine ⟨h.proper, ?_⟩
  have hcompared : f.ComparesBy db.equal (Subject.field (row.record model)) :=
    fun t _ v _ => std.equal v t.value
  rw [h.eval, hcompared.holdsBy_eq]
  rfl

/-- **The condition of a filter** decides it on every row, with any values bound after its own. -/
theorem Filter.render_decides (std : db.Standard) (f : Filter)
    (hf : ∀ name ∈ f.compared, isIdentifier name = true) (params : List Param) :
    ∃ cl more, f.render params = (.ok cl, params ++ more) ∧
      ∀ row later, cl.Decides db model row (params ++ more ++ later) f := by
  obtain ⟨cl, more, hrender, hsettles⟩ := f.render_settles model std.field hf params
  exact ⟨cl, more, hrender, fun row later => (hsettles row later).decides model row std⟩

end RowGuard
