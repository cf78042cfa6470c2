import RowGuard.Proofs.Store.Reachable

/-!
# What an aggregate is computed of

A query for an aggregate is answered by the numbers in a field of the rows that pass its filter, in
the order of their identifiers. Rows in which the field is missing or no number do not count.

* `Query.numbers`: the numbers that an aggregate is computed of
* `Store.answer_aggregate`: the answer, from these numbers
* `Store.viewed`: posts with given numbers, as a sample
-/

set_option autoImplicit false

namespace RowGuard

/-- **The numbers in a field** of the rows that a query is about. -/
def Query.numbers (q : Query) (field : String) (s : Store) : List Number :=
  numbersIn field ((s.table q.model).matching q.filter)

namespace Store

/-- **An aggregate is answered** from the numbers in its field. -/
theorem answer_aggregate (now : Timestamp) {s : Store} {q : Query} (hop : q.operation = .aggregate)
    {kind : AggregateKind} {field : String} (ha : q.aggregation = some ⟨kind, field⟩)
    {ns : List Number} (hns : q.numbers field s = ns) :
    (s.execute now q).1 = .ok (.value (kind.over ns)) := by
  have hc : q.operation ≠ .create := by rw [hop]; decide
  have hb : q.operation.isById = false := by rw [hop]; rfl
  rw [s.answer_execute now q hc hb, Query.about, hop, ha, ← hns]
  rfl

/-- Posts with given numbers of views, made in this order. -/
def viewed (views : List Int) : Store :=
  views.foldl (fun s n => (s.execute dayOne (.create .post [("views", .int n)])).2) .empty

theorem viewed_reachable (views : List Int) : (viewed views).Reachable :=
  List.foldlRecOn views _ Reachable.empty fun _ h _ _ => .execute _ _ h

/-- An aggregate over the views of all posts. -/
def ofViews (kind : AggregateKind) : Query :=
  { Query.new .post .aggregate with aggregation := some ⟨kind, "views"⟩ }

end Store

end RowGuard
