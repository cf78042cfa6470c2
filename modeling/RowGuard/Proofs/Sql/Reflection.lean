import RowGuard.Proofs.Sql.Table
import RowGuard.Proofs.Store.Rows

/-!
# Tables that reflect a store

A table reflects a store if its rows are the records of the store. The table keeps its rows in no
order and knows identifiers from a column; the store keeps records in order, with the identifier in
the data of each.

* `Reflects`: a table whose rows are the records of a store
* `Reflects.selected`: the rows that a query is about, in order, are the records the store finds
* `Reflects.change`, `Reflects.create`: what a query leaves of both still reflects
-/

set_option autoImplicit false

namespace RowGuard

open Sql

theorem SubjectType.name_injective {model model' : SubjectType} (h : model.name = model'.name) :
    model = model' := by
  revert h
  cases model <;> cases model' <;> decide

/-- **A table reflects a store**: no two rows of a model have one identifier, and the rows are the
records of the store, each with its model, its identifier and its data. -/
structure Reflects (rows : List Row) (s : Store) : Prop where
  keyed : rows.Pairwise fun a b => a.id = b.id → a.model ≠ b.model
  known : ∀ row ∈ rows, ∃ model : SubjectType, row.model = model.name
  ascending : ∀ model, (s.table model).rows.Ascending
  row_iff : ∀ model id r, s.row model id = some r ↔
    ∃ row ∈ rows, row.model = model.name ∧ row.id = id ∧ row.record model = r

/-- A table without rows reflects the empty store. -/
theorem reflects_empty : Reflects [] .empty where
  keyed := .nil
  known := nofun
  ascending model := by cases model <;> exact .nil
  row_iff model id r := by
    have hnone : Store.empty.row model id = none := by cases model <;> rfl
    rw [hnone]
    exact iff_of_false nofun fun ⟨row, hrow, _⟩ => nomatch hrow

/-! ## Data written over -/

/-- Prepared changes change no id. -/
theorem prepareUpdate_ne_id (now : Timestamp) (data : Fields) :
    ∀ p ∈ prepareUpdate now data, p.1 ≠ "id" := by
  intro p hp
  rcases Keyed.mem_insert hp with rfl | hp
  · exact (by decide : updatedField ≠ "id")
  · exact Keyed.ne_of_mem_erase (Keyed.mem_of_mem_erase hp)

/-- **The record of an overwritten row** is the record with the changes applied, though the record
has the identifier in its data and the row has not. -/
theorem Sql.Row.record_overwrite (model : SubjectType) (row : Row) (now : Timestamp)
    (data : Fields) : (row.overwrite (prepareUpdate now data)).record model =
      (row.record model).apply (prepareUpdate now data) := by
  have hmerge := Keyed.merge_insert (prepareUpdate_ne_id now data) (.ofId row.id) row.data
  exact congrArg (Record.mk model row.id) hmerge.symm

/-! ## The rows that a query is about -/

namespace Query

/-- A query covers a row of its model just if it picks the record. -/
theorem covers_iff_picks (q : Query) {row : Row} (hmodel : row.model = q.model.name) :
    q.Covers row ↔ q.picks row.id (row.record q.model) = true := by
  rw [Covers, picks, Bool.and_eq_true, Bool.or_eq_true, Bool.not_eq_true', decide_eq_true_iff]
  cases hby : q.operation.isById <;> simp [hmodel]

/-- What a query leaves of a row that it is about. -/
def leavesRow (now : Timestamp) (q : Query) (row : Row) : Option Row :=
  match q.operation with
  | .update | .updateMany => some (row.overwrite (q.changes now))
  | .delete | .deleteMany => none
  | _ => some row

/-- A row after a query. -/
def afterRow (now : Timestamp) (q : Query) (row : Row) : Option Row :=
  if q.Covers row then q.leavesRow now row else some row

/-- What is left of a covered row is what the store leaves of the record. -/
theorem leavesRow_record (now : Timestamp) (q : Query) (row : Row) :
    (q.leavesRow now row).map (·.record q.model) = q.leaves now (row.record q.model) := by
  unfold leavesRow leaves
  cases q.operation with
  | update | updateMany => exact congrArg some (row.record_overwrite q.model now _)
  | delete | deleteMany => rfl
  | findUnique | findFirst | findMany | count | aggregate | create => rfl

theorem leavesRow_keeps {now : Timestamp} {q : Query} {row row' : Row}
    (h : q.leavesRow now row = some row') : row'.id = row.id ∧ row'.model = row.model := by
  unfold leavesRow at h
  split at h <;> cases h <;> exact ⟨rfl, rfl⟩

/-- **A row after a query** is the record after it. -/
theorem afterRow_record (now : Timestamp) {q : Query} {row : Row}
    (hmodel : row.model = q.model.name) : (q.afterRow now row).map (·.record q.model) =
      if q.picks row.id (row.record q.model) then q.leaves now (row.record q.model)
      else some (row.record q.model) := by
  unfold afterRow
  by_cases hcovers : q.Covers row
  · rw [if_pos hcovers, if_pos ((q.covers_iff_picks hmodel).1 hcovers), leavesRow_record]
  · rw [if_neg hcovers, if_neg fun hpicks => hcovers ((q.covers_iff_picks hmodel).2 hpicks)]
    rfl

/-- Rows of other models stay as they are. -/
theorem afterRow_of_ne (now : Timestamp) {q : Query} {row : Row}
    (hmodel : row.model ≠ q.model.name) : q.afterRow now row = some row :=
  if_neg fun hcovers => hmodel hcovers.1

/-- A row that is left keeps its id and its model. -/
theorem afterRow_keeps {now : Timestamp} {q : Query} {row row' : Row}
    (h : q.afterRow now row = some row') : row'.id = row.id ∧ row'.model = row.model := by
  unfold afterRow at h
  split at h
  · exact leavesRow_keeps h
  · cases h
    exact ⟨rfl, rfl⟩

end Query

namespace Reflects

variable {rows : List Row} {s : Store}

/-- **The records of a store are the rows** of their models. -/
theorem mem_iff (h : Reflects rows s) (model : SubjectType) (p : Int64 × Record) :
    p ∈ (s.table model).rows ↔
      ∃ row ∈ rows, row.model = model.name ∧ (row.id, row.record model) = p := by
  obtain ⟨id, r⟩ := p
  have hrow : Keyed.get? id (s.table model).rows = some r ↔ _ := h.row_iff model id r
  rw [← Keyed.get?_eq_some_iff (h.ascending model), hrow]
  simp only [Prod.mk.injEq]

/-- Rows in order ascend in their ids. -/
theorem ascending_inOrder {rows : List Row} (h : rows.Pairwise fun a b => a.id ≠ b.id)
    (model : SubjectType) :
    Keyed.Ascending ((inOrder rows).map fun row => (row.id, row.record model)) := by
  have hle : (inOrder rows).Pairwise fun a b => decide (a.id ≤ b.id) = true := by
    refine List.pairwise_mergeSort (fun a b c hab hbc => ?_) (fun a b => ?_) rows
    · exact decide_eq_true (Std.le_trans (of_decide_eq_true hab) (of_decide_eq_true hbc))
    · rw [Bool.or_eq_true, decide_eq_true_iff, decide_eq_true_iff]
      exact Std.le_total
  have hne : (inOrder rows).Pairwise fun a b => a.id ≠ b.id :=
    (List.mergeSort_perm rows _).symm.pairwise h fun hab => hab.symm
  refine List.pairwise_map.2 ((hle.and hne).imp fun hab => ?_)
  exact Std.lt_of_le_of_ne (of_decide_eq_true hab.1) hab.2

/-- **The rows that a query is about, in order**, are the records that the store finds. -/
theorem selected (h : Reflects rows s) (q : Query) :
    (inOrder (rows.filter fun row => decide (q.Covers row))).map
      (fun row => (row.id, row.record q.model)) =
      (s.table q.model).rows.filter fun p => q.picks p.1 p.2 := by
  have hdistinct : (rows.filter fun row => decide (q.Covers row)).Pairwise
      fun a b => a.id ≠ b.id := by
    refine (h.keyed.filter _).imp_of_mem fun ha hb hab hid => hab hid ?_
    exact (of_decide_eq_true (List.mem_filter.1 ha).2).1.trans
      (of_decide_eq_true (List.mem_filter.1 hb).2).1.symm
  refine (ascending_inOrder hdistinct q.model).eq_of_mem_iff
    ((h.ascending q.model).filter _) fun p => ?_
  rw [List.mem_map, List.mem_filter, h.mem_iff]
  constructor
  · rintro ⟨row, hrow, rfl⟩
    obtain ⟨hmem, hcovers⟩ := List.mem_filter.1 ((List.mergeSort_perm _ _).mem_iff.1 hrow)
    have hcovers := of_decide_eq_true hcovers
    exact ⟨⟨row, hmem, hcovers.1, rfl⟩, (q.covers_iff_picks hcovers.1).1 hcovers⟩
  · rintro ⟨⟨row, hmem, hmodel, rfl⟩, hpicks⟩
    have hcovers := (q.covers_iff_picks hmodel).2 hpicks
    refine ⟨row, (List.mergeSort_perm _ _).mem_iff.2 ?_, rfl⟩
    exact List.mem_filter.2 ⟨hmem, decide_eq_true hcovers⟩

/-- **What a query leaves of both** still reflects, if it creates no row. -/
theorem change (h : Reflects rows s) (now : Timestamp) {q : Query} (hc : q.operation ≠ .create) :
    Reflects (rows.filterMap (q.afterRow now)) (s.execute now q).2 where
  keyed := by
    refine List.Pairwise.filterMap (q.afterRow now) (fun a b hab a' ha' b' hb' => ?_) h.keyed
    obtain ⟨hida, hmodela⟩ := Query.afterRow_keeps ha'
    obtain ⟨hidb, hmodelb⟩ := Query.afterRow_keeps hb'
    rw [hida, hidb, hmodela, hmodelb]
    exact hab
  known := by
    intro row' hrow'
    obtain ⟨row, hrow, hafter⟩ := List.mem_filterMap.1 hrow'
    rw [(Query.afterRow_keeps hafter).2]
    exact h.known row hrow
  ascending model := by
    rw [Store.table_execute]
    split
    · exact q.ascending_onTable now _ (h.ascending q.model)
    · exact h.ascending model
  row_iff model id r := by
    by_cases hmodel : model = q.model
    -- both sides ask what is left of the old row or record
    · subst hmodel
      rw [Store.row_execute now hc (h.ascending q.model), Option.bind_eq_some_iff]
      constructor
      · rintro ⟨r₀, hr₀, hleft⟩
        obtain ⟨row, hrow, hmodel, rfl, rfl⟩ := (h.row_iff _ _ _).1 hr₀
        rw [← Query.afterRow_record now hmodel] at hleft
        obtain ⟨row', hafter, rfl⟩ := Option.map_eq_some_iff.1 hleft
        have hkeeps := Query.afterRow_keeps hafter
        exact ⟨row', List.mem_filterMap.2 ⟨row, hrow, hafter⟩, hkeeps.2.trans hmodel, hkeeps.1, rfl⟩
      · rintro ⟨row', hrow', hmodel', rfl, rfl⟩
        obtain ⟨row, hrow, hafter⟩ := List.mem_filterMap.1 hrow'
        have hkeeps := Query.afterRow_keeps hafter
        have hmodel : row.model = q.model.name := hkeeps.2.symm.trans hmodel'
        refine ⟨row.record q.model, (h.row_iff _ _ _).2 ⟨row, hrow, hmodel, hkeeps.1.symm, rfl⟩, ?_⟩
        rw [hkeeps.1, ← Query.afterRow_record now hmodel, hafter]
        rfl
    · -- the query is not about rows of another model
      rw [Store.row_execute_of_ne now hmodel, h.row_iff]
      have hother : ∀ row : Row, row.model = model.name → q.afterRow now row = some row :=
        fun row hrow => Query.afterRow_of_ne now fun hq =>
          hmodel (SubjectType.name_injective (hrow.symm.trans hq))
      constructor
      · rintro ⟨row, hrow, hrest⟩
        exact ⟨row, List.mem_filterMap.2 ⟨row, hrow, hother row hrest.1⟩, hrest⟩
      · rintro ⟨row', hrow', hrest⟩
        obtain ⟨row, hrow, hafter⟩ := List.mem_filterMap.1 hrow'
        have hsame := hother row ((Query.afterRow_keeps hafter).2.symm.trans hrest.1)
        cases hsame.symm.trans hafter
        exact ⟨_, hrow, hrest⟩

/-- **A new row on both sides** still reflects. -/
theorem create (h : Reflects rows s) (now : Timestamp) {q : Query} (hc : q.operation = .create)
    {data : Fields} (hdata : q.data = some data) {newId : Int64}
    (hnext : newId = (s.table q.model).lastId + 1) (hnew : ∀ row ∈ rows, row.id ≠ newId) :
    Reflects (rows ++ [⟨newId, q.model.name, prepareInsert now data⟩]) (s.execute now q).2 where
  keyed := by
    refine List.pairwise_append.2 ⟨h.keyed, List.pairwise_singleton _ _, fun a ha b hb => ?_⟩
    rw [List.mem_singleton.1 hb]
    exact fun hid => absurd hid (hnew a ha)
  known := by
    intro row hrow
    rcases List.mem_append.1 hrow with hrow | hrow
    · exact h.known row hrow
    · exact ⟨q.model, by rw [List.mem_singleton.1 hrow]⟩
  ascending model := by
    rw [Store.table_execute]
    split
    · exact q.ascending_onTable now _ (h.ascending q.model)
    · exact h.ascending model
  row_iff model id r := by
    have hsplit : (∃ row ∈ rows ++ [⟨newId, q.model.name, prepareInsert now data⟩],
        row.model = model.name ∧ row.id = id ∧ row.record model = r) ↔
          s.row model id = some r ∨ (q.model.name = model.name ∧ newId = id ∧
            Record.new model newId (prepareInsert now data) = r) := by
      simp only [List.mem_append, List.mem_singleton, or_and_right, exists_or, exists_eq_left,
        h.row_iff]
      rfl
    rw [hsplit]
    by_cases hmodel : model = q.model
    · subst hmodel
      rw [Store.row_execute_create now hc hdata, ← hnext]
      by_cases hid : id = newId
      · -- no row had the new identifier
        have hfree : s.row q.model id ≠ some r := by
          intro hrow
          obtain ⟨row, hmem, -, hrowId, -⟩ := (h.row_iff _ _ _).1 hrow
          exact hnew row hmem (hrowId.trans hid)
        rw [if_pos hid, or_iff_right hfree]
        simp [hid]
      · simp only [if_neg hid, Ne.symm hid, false_and, and_false, or_false]
    · rw [Store.row_execute_of_ne now hmodel]
      have hname : q.model.name ≠ model.name :=
        fun hname => hmodel (SubjectType.name_injective hname).symm
      simp only [hname, false_and, or_false]

end Reflects

end RowGuard
