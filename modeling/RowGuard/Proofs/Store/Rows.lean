import RowGuard.Proofs.Keyed
import RowGuard.Store.Basic

/-!
# What a query does to a row

A query works on the table of its model alone (`table_execute`). Apart from the creation of a row,
what it does there can be told row by row: a row that it picks is changed, removed or left, and any
other row is left (`row_execute`).

* `Query.picks`: the rows a query is about
* `Query.leaves`: what is left of such a row
* `row_execute_create`: a new row takes the next identifier
-/

set_option autoImplicit false

namespace RowGuard

attribute [ext] Table Store

/-- A store is known by its tables. -/
theorem Store.eq_of_tables {s s' : Store} (h : ∀ model, s'.table model = s.table model) : s' = s :=
  Store.ext (h .all) (h .post) (h .user)

/-- The row of a type under an identifier. -/
def Store.row (s : Store) (model : SubjectType) (id : Int64) : Option Record :=
  (s.table model).rows.get? id

namespace Query

/-- **Whether a query is about a row**: the row passes its filter, and has its identifier if the
query is about one record. -/
def picks (q : Query) (id : Int64) (r : Record) : Bool :=
  q.filter.admits r && (!q.operation.isById || decide (q.id = some id))

/-- The changes an update writes. -/
def changes (now : Timestamp) (q : Query) : Fields := prepareUpdate now (q.data.getD [])

/-- **What a query leaves of a row** that it is about. -/
def leaves (now : Timestamp) (q : Query) (r : Record) : Option Record :=
  match q.operation with
  | .update | .updateMany => some (r.apply (q.changes now))
  | .delete | .deleteMany => none
  | _ => some r

theorem leaves_or_writes (now : Timestamp) (q : Query) (r : Record) (hc : q.operation ≠ .create) :
    q.leaves now r = some r ∨ q.operation.action = .update ∨ q.operation.action = .delete := by
  unfold leaves
  cases hop : q.operation with
  | create => exact absurd hop hc
  | update | updateMany => exact .inr (.inl rfl)
  | delete | deleteMany => exact .inr (.inr rfl)
  | findUnique | findFirst | findMany | count | aggregate => exact .inl rfl

/-- The table of its model after a query. -/
def onTable (now : Timestamp) (q : Query) (t : Table) : Table :=
  match q.operation, q.id, q.data with
  | .create, _, some data => (t.create q.model (prepareInsert now data)).2
  | .update, some id, _ => (t.update id q.filter (q.changes now)).2
  | .updateMany, _, _ => (t.updateMany q.filter (q.changes now)).2
  | .delete, some id, _ => (t.delete id q.filter).2
  | .deleteMany, _, _ => (t.deleteMany q.filter).2
  | _, _, _ => t

/-- **The answer to a query about many rows**, by the rows it is about. -/
def about (q : Query) (rows : List Record) : Result Output :=
  match q.operation, q.aggregation with
  | .findMany, _ => .ok (.records rows)
  | .aggregate, some a => .ok (.value (a.over rows))
  | .aggregate, none => .error (.invalidInput "aggregate requires an aggregation")
  | .count, _ | .updateMany, _ | .deleteMany, _ => .ok (.count rows.length)
  | _, _ => .ok (.record rows.head?)

end Query

namespace Table

variable (t : Table) (f : Filter) (changes : Fields) (id k : Int64)

/-- An update by id changes the row under it, if the filter admits it. -/
theorem rows_update : (t.update id f changes).2.rows.get? k =
    if k = id then (t.rows.get? k).map fun r => if f.admits r then r.apply changes else r
    else t.rows.get? k := by
  unfold update byId
  by_cases hk : k = id
  · subst hk
    rw [if_pos rfl]
    cases hr : t.rows.get? k with
    | none => exact hr
    | some r =>
      by_cases hf : f.admits r = true
      · simp [hf, Option.filter, Keyed.get?_insert]
      · simp [hf, Option.filter, hr]
  · rw [if_neg hk]
    split
    · rw [Keyed.get?_insert, if_neg hk]
    · rfl

/-- A delete by id removes the row under it, if the filter admits it. -/
theorem rows_delete : (t.delete id f).2.rows.get? k =
    if k = id then (t.rows.get? k).filter fun r => !f.admits r else t.rows.get? k := by
  unfold delete byId
  by_cases hk : k = id
  · subst hk
    rw [if_pos rfl]
    cases hr : t.rows.get? k with
    | none => exact hr
    | some r =>
      by_cases hf : f.admits r = true
      · simp [hf, Option.filter, Keyed.get?_erase]
      · simp [hf, Option.filter, hr]
  · rw [if_neg hk]
    split
    · rw [Keyed.get?_erase, if_neg hk]
    · rfl

variable {f changes id} in
theorem update_of_none (h : (t.update id f changes).1 = none) : (t.update id f changes).2 = t := by
  unfold update at h ⊢
  split at h
  · cases h
  · rfl

variable {f id} in
theorem delete_of_none (h : (t.delete id f).1 = none) : (t.delete id f).2 = t := by
  unfold delete at h ⊢
  split at h
  · cases h
  · rfl

variable {f id} in
theorem update_of_found {r : Record} (h : t.byId id f = some r) (changes : Fields) :
    t.update id f changes =
      (some (r.apply changes), { t with rows := t.rows.insert id (r.apply changes) }) := by
  unfold update
  rw [h]

variable {f id} in
theorem delete_of_found {r : Record} (h : t.byId id f = some r) :
    t.delete id f = (some r, { t with rows := t.rows.erase id }) := by
  unfold delete
  rw [h]

/-- An update by filter changes the rows that it admits. -/
theorem rows_updateMany : (t.updateMany f changes).2.rows.get? k =
    (t.rows.get? k).map fun r => if f.admits r then r.apply changes else r :=
  Keyed.get?_mapValues (fun r : Record => if f.admits r then r.apply changes else r) k t.rows

/-- A delete by filter removes the rows that it admits. -/
theorem rows_deleteMany (h : t.rows.Ascending) : (t.deleteMany f).2.rows.get? k =
    (t.rows.get? k).filter fun r => !f.admits r :=
  Keyed.get?_filterValues h (fun r => !f.admits r) k

theorem lastId_update : (t.update id f changes).2.lastId = t.lastId := by
  unfold update; split <;> rfl

theorem lastId_delete : (t.delete id f).2.lastId = t.lastId := by
  unfold delete; split <;> rfl

end Table

namespace Query

variable (now : Timestamp) (q : Query) (t : Table)

/-- Only a creation moves the counter of identifiers. -/
theorem lastId_onTable (hc : q.operation ≠ .create) : (q.onTable now t).lastId = t.lastId := by
  unfold onTable
  split
  · exact absurd (by assumption) hc
  · exact t.lastId_update ..
  · rfl
  · exact t.lastId_delete ..
  · rfl
  · rfl

/-- Rows stay in ascending order of their identifiers. -/
theorem ascending_onTable (h : t.rows.Ascending) : (q.onTable now t).rows.Ascending := by
  unfold onTable
  split
  · exact h.insert _ _
  · unfold Table.update
    split
    · exact h.insert _ _
    · exact h
  · exact h.mapValues fun r : Record => if q.filter.admits r then r.apply (q.changes now) else r
  · unfold Table.delete
    split
    · exact h.erase _
    · exact h
  · exact h.filter _
  · exact h

variable {q} {t}

/-- **One row after a query** that creates none: changed or removed if the query is about it. -/
theorem rows_onTable (hc : q.operation ≠ .create) (h : t.rows.Ascending) (id : Int64) :
    (q.onTable now t).rows.get? id =
      (t.rows.get? id).bind fun r => if q.picks id r then q.leaves now r else some r := by
  cases hop : q.operation with
  | create => exact absurd hop hc
  | update =>
    cases hid : q.id with
    | none =>
      -- without an identifier no row is picked
      simp only [onTable, picks, hop, hid, Operation.isById, reduceCtorEq, decide_false]
      simp
    | some i =>
      simp only [onTable, picks, leaves, hop, hid, t.rows_update, Operation.isById]
      by_cases hi : id = i
      · subst hi
        cases t.rows.get? id with
        | none => simp
        | some r => by_cases hf : q.filter.admits r = true <;> simp [hf]
      · rw [if_neg hi]
        simp [Ne.symm hi]
  | updateMany =>
    simp only [onTable, picks, leaves, hop, t.rows_updateMany, Operation.isById]
    cases t.rows.get? id with
    | none => rfl
    | some r => by_cases hf : q.filter.admits r = true <;> simp [hf]
  | delete =>
    cases hid : q.id with
    | none =>
      -- without an identifier no row is picked
      simp only [onTable, picks, hop, hid, Operation.isById, reduceCtorEq, decide_false]
      simp
    | some i =>
      simp only [onTable, picks, leaves, hop, hid, t.rows_delete, Operation.isById]
      by_cases hi : id = i
      · subst hi
        cases t.rows.get? id with
        | none => simp
        | some r => by_cases hf : q.filter.admits r = true <;> simp [hf]
      · rw [if_neg hi]
        simp [Ne.symm hi]
  | deleteMany =>
    simp only [onTable, picks, leaves, hop, t.rows_deleteMany _ _ h, Operation.isById]
    cases t.rows.get? id with
    | none => rfl
    | some r => by_cases hf : q.filter.admits r = true <;> simp [hf]
  | _ => simp [onTable, leaves, hop]

end Query

namespace Store

variable (now : Timestamp) (q : Query) (s : Store)

theorem withTable_table (model : SubjectType) : s.withTable model (s.table model) = s := by
  cases model <;> rfl

/-- **A query works on the table of its model**, and on no other. -/
theorem execute_store :
    (s.execute now q).2 = s.withTable q.model (q.onTable now (s.table q.model)) := by
  obtain ⟨model, operation, id, filter, data, aggregation⟩ := q
  -- a query that only reads, or lacks what it needs, puts the same table back
  cases operation with
  | create =>
    cases data with
    | none => exact (s.withTable_table model).symm
    | some data => rfl
  | update | delete =>
    cases id with
    | none => exact (s.withTable_table model).symm
    | some id => rfl
  | updateMany | deleteMany => rfl
  | findUnique => cases id <;> exact (s.withTable_table model).symm
  | aggregate => cases aggregation <;> exact (s.withTable_table model).symm
  | findFirst | findMany | count => exact (s.withTable_table model).symm

/-- A query about many rows is answered by those that pass its filter. -/
theorem answer_execute (hc : q.operation ≠ .create) (hb : q.operation.isById = false) :
    (s.execute now q).1 = q.about ((s.table q.model).matching q.filter) := by
  obtain ⟨model, operation, id, filter, data, aggregation⟩ := q
  cases operation with
  | create => exact absurd rfl hc
  | findUnique | update | delete => cases hb
  | aggregate => cases aggregation <;> rfl
  | findFirst | findMany | count | updateMany | deleteMany => rfl

variable {q} in
/-- A creation without data is refused. -/
theorem answer_undrafted (hc : q.operation = .create) (hd : q.data = none) :
    (s.execute now q).1 = .error (.invalidInput "create requires data") := by
  simp only [execute, hc, hd]

variable {q} in
/-- A creation answers with the row it made. -/
theorem answer_drafted (hc : q.operation = .create) {data : Fields} (hd : q.data = some data) :
    (s.execute now q).1 = .ok (.record (some
      (.new q.model ((s.table q.model).lastId + 1) (prepareInsert now data)))) := by
  simp only [execute, hc, hd, Table.create]

variable {q} in
/-- A query about one record that names none is refused. -/
theorem answer_no_id (hb : q.operation.isById = true) (hid : q.id = none) :
    (s.execute now q).1 =
      .error (.invalidInput (q.operation.inspect ++ " requires an id")) := by
  cases hop : q.operation with
  | findUnique | update | delete => simp only [execute, hop, hid]
  | findFirst | findMany | count | aggregate | create | updateMany | deleteMany =>
    rw [hop] at hb
    cases hb

/-- A query that reads leaves the store as it is. -/
theorem execute_read (hr : q.operation.action = .read) : (s.execute now q).2 = s := by
  have ht : q.onTable now (s.table q.model) = s.table q.model := by
    unfold Query.onTable
    cases hop : q.operation <;> first | rfl | (rw [hop] at hr; cases hr)
  rw [execute_store, ht, withTable_table]

variable {now q s} in
/-- A query that fails leaves the store as it is. -/
theorem execute_error {e : Error} (h : (s.execute now q).1 = .error e) :
    (s.execute now q).2 = s := by
  obtain ⟨model, operation, id, filter, data, aggregation⟩ := q
  cases operation with
  | findUnique | findFirst | findMany | count | aggregate => exact execute_read now _ s rfl
  | create =>
    cases data with
    | none => rfl
    | some data => cases h
  | update | delete =>
    cases id with
    | none => rfl
    | some id => cases h
  | updateMany | deleteMany => cases h

variable {now q s} in
/-- A query that answers with no record leaves the store as it is. -/
theorem execute_nothing (h : (s.execute now q).1 = .ok (.record none)) :
    (s.execute now q).2 = s := by
  obtain ⟨model, operation, id, filter, data, aggregation⟩ := q
  cases operation with
  | findUnique | findFirst | findMany | count | aggregate => exact execute_read now _ s rfl
  | create => cases data <;> cases h
  | update =>
    cases id with
    | none => cases h
    | some id =>
      have hnone : ((s.table model).update id filter (prepareUpdate now (data.getD []))).1 = none :=
        Output.record.inj (Except.ok.inj h)
      have ht := (s.table model).update_of_none hnone
      rw [execute_store]
      exact (congrArg (s.withTable model) ht).trans (s.withTable_table model)
  | delete =>
    cases id with
    | none => cases h
    | some id =>
      have hnone : ((s.table model).delete id filter).1 = none :=
        Output.record.inj (Except.ok.inj h)
      have ht := (s.table model).delete_of_none hnone
      rw [execute_store]
      exact (congrArg (s.withTable model) ht).trans (s.withTable_table model)
  | updateMany | deleteMany => cases h

/-- A query changes the table of its model only. -/
theorem table_execute (model : SubjectType) : (s.execute now q).2.table model =
    if model = q.model then q.onTable now (s.table q.model) else s.table model := by
  rw [execute_store, table_withTable]

/-- A query that creates no row leaves the counters as they are. -/
theorem lastId_execute (hc : q.operation ≠ .create) (model : SubjectType) :
    ((s.execute now q).2.table model).lastId = (s.table model).lastId := by
  rw [table_execute]
  split
  · rename_i h; rw [q.lastId_onTable now _ hc, h]
  · rfl

variable {q s}

theorem row_execute_of_ne {model : SubjectType} (h : model ≠ q.model) (id : Int64) :
    (s.execute now q).2.row model id = s.row model id := by
  unfold row; rw [table_execute, if_neg h]

/-- **One row after a query** that creates none. -/
theorem row_execute (hc : q.operation ≠ .create) (h : (s.table q.model).rows.Ascending)
    (id : Int64) : (s.execute now q).2.row q.model id =
      (s.row q.model id).bind fun r => if q.picks id r then q.leaves now r else some r := by
  unfold row; rw [table_execute, if_pos rfl, q.rows_onTable now hc h]

/-- **One row after the creation of a row**: the new one stands under the next identifier. -/
theorem row_execute_create (hc : q.operation = .create) {data : Fields} (hd : q.data = some data)
    (id : Int64) : (s.execute now q).2.row q.model id =
      let next := (s.table q.model).lastId + 1
      if id = next then some (.new q.model next (prepareInsert now data))
      else s.row q.model id := by
  unfold row
  rw [table_execute, if_pos rfl]
  simp only [Query.onTable, hc, hd]
  exact Keyed.get?_insert ..

end Store

end RowGuard
