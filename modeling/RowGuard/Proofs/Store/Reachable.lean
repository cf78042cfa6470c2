import RowGuard.Proofs.Store.Rows
import RowGuard.Rule.Policy

/-!
# Stores that queries lead to

A store is reachable when queries lead to it from the store that never had a row. Queries of any
kind count, guarded or not, for a guard only ever asks such queries.

In a reachable store the rows of a table are in ascending order of their identifiers, and each is
filed under its own identifier and its own type (`Store.Reachable.sound`). So what a query does to a
store can be told by the rows it is about (`Store.replaced_execute`).
-/

set_option autoImplicit false

namespace RowGuard

/-- **A table in order**: its rows ascend, each under its own identifier and of the table's type. -/
structure Table.Sound (t : Table) (model : SubjectType) : Prop where
  ascending : t.rows.Ascending
  filed : ∀ {id r}, t.rows.get? id = some r → r.id = id ∧ r.model = model

namespace Query

variable {q : Query} {t : Table} (now : Timestamp)

/-- A query rewrites the data of a row, and neither its identifier nor its type. -/
theorem leaves_filed {r r' : Record} (h : q.leaves now r = some r') :
    r'.id = r.id ∧ r'.model = r.model := by
  unfold leaves at h
  split at h
  · cases h; exact ⟨rfl, rfl⟩
  · cases h; exact ⟨rfl, rfl⟩
  · cases h
  · cases h
  · cases h; exact ⟨rfl, rfl⟩

theorem sound_onTable (h : t.Sound q.model) : (q.onTable now t).Sound q.model := by
  refine ⟨ascending_onTable now q t h.ascending, fun {id r} hr => ?_⟩
  by_cases hc : q.operation = .create
  · cases hd : q.data with
    | none => simp only [onTable, hc, hd] at hr; exact h.filed hr
    | some data =>
      simp only [onTable, hc, hd, Table.create, Keyed.get?_insert] at hr
      split at hr
      · rename_i hid; cases hr; exact ⟨hid.symm, rfl⟩
      · exact h.filed hr
  · rw [rows_onTable now hc h.ascending, Option.bind_eq_some_iff] at hr
    obtain ⟨r₀, hr₀, hr⟩ := hr
    obtain ⟨hid, hmodel⟩ := h.filed hr₀
    split at hr
    · obtain ⟨h1, h2⟩ := leaves_filed now hr
      exact ⟨h1.trans hid, h2.trans hmodel⟩
    · cases hr; exact ⟨hid, hmodel⟩

end Query

namespace Store

/-- **A store that queries lead to.** -/
inductive Reachable : Store → Prop
  | empty : Reachable .empty
  | execute {s : Store} (now : Timestamp) (q : Query) (h : Reachable s) :
      Reachable (s.execute now q).2

/-- Every table of a store is in order. -/
def Sound (s : Store) : Prop := ∀ model, (s.table model).Sound model

theorem sound_empty : Store.empty.Sound := by
  intro model
  cases model <;> exact ⟨List.Pairwise.nil, fun h => nomatch h⟩

theorem Sound.execute {s : Store} (h : s.Sound) (now : Timestamp) (q : Query) :
    (s.execute now q).2.Sound := by
  intro model
  rw [table_execute]
  split
  · rename_i hm; subst hm; exact Query.sound_onTable now (h _)
  · exact h model

/-- **Reachable stores are in order.** -/
theorem Reachable.sound {s : Store} (h : s.Reachable) : s.Sound := by
  induction h with
  | empty => exact sound_empty
  | execute now q _ ih => exact ih.execute now q

/-- The first moment of a day, as a clock reading to write samples at. -/
def dayOne : Timestamp := ⟨⟨2024, 1, 1⟩, 0, 0, 0, 0⟩

/-- Two posts, the first of user 1 and the second of user 2. -/
def twoPosts : Store :=
  ((Store.empty.execute dayOne (.create .post [(authorField, .int 1)])).2.execute dayOne
    (.create .post [(authorField, .int 2)])).2

theorem twoPosts_reachable : twoPosts.Reachable := .execute _ _ (.execute _ _ .empty)

/-! ## Rows that were replaced -/

/-- **Some rows of a type were rewritten or removed**, and nothing else happened: other rows, other
tables and the counters of identifiers are as they were. -/
structure Replaced (s : Store) (model : SubjectType) (rows : List Record)
    (left : Record → Option Record) (s' : Store) : Prop where
  listed : ∀ r ∈ rows, s'.row model r.id = left r
  others : ∀ id, (∀ r ∈ rows, r.id ≠ id) → s'.row model id = s.row model id
  tables : ∀ model', model' ≠ model → s'.table model' = s.table model'
  counters : ∀ model', (s'.table model').lastId = (s.table model').lastId

/-- What is left matters only for the listed rows. -/
theorem Replaced.congr {s s' : Store} {model : SubjectType} {rows : List Record}
    {left left' : Record → Option Record} (h : s.Replaced model rows left s')
    (heq : ∀ r ∈ rows, left r = left' r) : s.Replaced model rows left' s' :=
  { h with listed := fun r hr => (h.listed r hr).trans (heq r hr) }

/-- **A query that creates no row** does to the rows it is about what it leaves of them. -/
theorem replaced_execute {s : Store} {q : Query} (h : s.Sound) (now : Timestamp)
    (hc : q.operation ≠ .create) {rows : List Record}
    (hrows : ∀ r, r ∈ rows ↔ s.row q.model r.id = some r ∧ q.picks r.id r = true) :
    s.Replaced q.model rows (q.leaves now) (s.execute now q).2 where
  listed r hr := by
    obtain ⟨hrow, hp⟩ := (hrows r).1 hr
    rw [row_execute now hc (h q.model).ascending, hrow, Option.bind_some, if_pos hp]
  others id hid := by
    rw [row_execute now hc (h q.model).ascending]
    cases hrow : s.row q.model id with
    | none => rfl
    | some r =>
      obtain ⟨rfl, -⟩ := (h q.model).filed hrow
      have hp : ¬ q.picks r.id r = true := fun hp => hid r ((hrows r).2 ⟨hrow, hp⟩) rfl
      rw [Option.bind_some, if_neg hp]
  tables model' hne := by rw [table_execute, if_neg hne]
  counters model' := lastId_execute now q s hc model'

end Store

end RowGuard
