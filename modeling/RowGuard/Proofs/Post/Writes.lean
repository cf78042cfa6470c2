import RowGuard.Proofs.Post.Map

/-!
# Writes to a store that shows posts

What the four writes of the post service make of a store that shows posts: a row is added, replaced
or removed, and the rows that are left are again those of posts. The filter of a query says at most
which rows it is about, so a filter that was narrowed on the way leaves this as it is.

* `execute_newPost`, `execute_change`, `execute_removal`, `execute_clearance`: one write each
* `execute_not_found`: a write that finds no row
-/

set_option autoImplicit false

namespace RowGuard.Store

variable {s : Store} {posts : PostMap} {now : Timestamp} {id : Int64} {p : Post}

/-- A store with other rows of posts. -/
theorem shows_withTable (id : Int64) {posts' : PostMap}
    (hvalid : ∀ e ∈ posts', e.2.id = e.1 ∧ e.2.Dated) :
    (s.withTable .post ⟨id, posts'.map fun e => (e.1, e.2.row)⟩).Shows posts' := ⟨rfl, hvalid⟩

theorem shows_of_rows {s' : Store} {posts' : PostMap}
    (hstore : s' = s.withTable .post ⟨id, posts'.map fun e => (e.1, e.2.row)⟩)
    (hvalid : ∀ e ∈ posts', e.2.id = e.1 ∧ e.2.Dated) : s'.Shows posts' := by
  rw [hstore]
  exact shows_withTable id hvalid

theorem valid_insert (h : s.Shows posts) {p : Post} (hp : p.Dated) :
    ∀ e ∈ posts.insert p.id p, e.2.id = e.1 ∧ e.2.Dated := by
  intro e he
  rcases Keyed.mem_insert he with rfl | he
  · exact ⟨rfl, hp⟩
  · exact h.valid e he

/-- What a query about one record finds is the row of a post. -/
theorem post_of_byId (h : s.Shows posts) {filter : Filter} {r : Record}
    (hfound : (s.table .post).byId id filter = some r) :
    ∃ p, posts.get? id = some p ∧ r = p.row := by
  obtain ⟨hrow, -⟩ := Option.filter_eq_some_iff.1 hfound
  have hshown : (posts.get? id).map Post.row = some r := (h.row_eq id).symm.trans hrow
  obtain ⟨p, hp, hr⟩ := Option.map_eq_some_iff.1 hshown
  exact ⟨p, hp, hr.symm⟩

/-- A write to one record that is not found leaves the store as it is. -/
theorem execute_not_found {q : Query} (hop : q.operation = .update ∨ q.operation = .delete)
    (hid : q.id = some id) (hnone : (s.table q.model).byId id q.filter = none) :
    (s.execute now q).2 = s := by
  have hanswer : (s.execute now q).1 = .ok (.record none) := by
    unfold execute
    rcases hop with hop | hop
    · simp only [hop, hid, Table.update, hnone]
    · simp only [hop, hid, Table.delete, hnone]
  exact execute_nothing hanswer

/-- **A new row** is that of the new post. -/
theorem execute_newPost (h : s.Shows posts) (input : NewPost) (author : Int64) (filter : Filter) :
    let next := (s.table .post).lastId + 1
    s.execute now
        { Query.create .post (input.toFields.insert authorField (.ofId author)) with filter } =
      (.ok (.record (some (input.post next author now).row)), s.withTable .post
        ⟨next, (posts.insert next (input.post next author now)).map fun e => (e.1, e.2.row)⟩) := by
  intro next
  have hrow := input.row_post next author now
  have hrows := Keyed.insert_mapValues Post.row next (input.post next author now) posts
  rw [← hrows, ← h.rows, ← hrow]
  rfl

/-- **A row that is written over** becomes that of the changed post. -/
theorem execute_change (h : s.Shows posts) (changes : PostChanges) {filter : Filter}
    (hfound : (s.table .post).byId id filter = some p.row) :
    (s.execute now { Query.update .post id changes.toFields with filter }).2 = s.withTable .post
      ⟨(s.table .post).lastId,
        (posts.insert id (changes.applied now p)).map fun e => (e.1, e.2.row)⟩ := by
  have htable := (s.table .post).update_of_found hfound (prepareUpdate now changes.toFields)
  rw [changes.row_applied, h.rows, Keyed.insert_mapValues Post.row] at htable
  exact (execute_store ..).trans (congrArg (s.withTable .post) (congrArg Prod.snd htable))

/-- **A row that is taken out** leaves the others. -/
theorem execute_removal (h : s.Shows posts) {filter : Filter}
    (hfound : (s.table .post).byId id filter = some p.row) :
    (s.execute now { Query.delete .post id with filter }).2 = s.withTable .post
      ⟨(s.table .post).lastId, (posts.erase id).map fun e => (e.1, e.2.row)⟩ := by
  have htable := (s.table .post).delete_of_found hfound
  rw [h.rows, Keyed.erase_mapValues Post.row] at htable
  exact (execute_store ..).trans (congrArg (s.withTable .post) (congrArg Prod.snd htable))

/-- **Rows taken out by a filter** leave those that do not pass it. -/
theorem execute_clearance (h : s.Shows posts) (filter : Filter) :
    (s.execute now (Query.deleteMany .post filter)).2 = s.withTable .post
      ⟨(s.table .post).lastId,
        (posts.filter fun e => !filter.admits e.2.row).map fun e => (e.1, e.2.row)⟩ := by
  have hrows : ((s.table .post).rows.filter fun e => !filter.admits e.2) =
      (posts.filter fun e => !filter.admits e.2.row).map fun e => (e.1, e.2.row) := by
    rw [h.rows, List.filter_map]
    rfl
  exact (execute_store ..).trans
    (congrArg (fun rows => s.withTable .post ⟨(s.table .post).lastId, rows⟩) hrows)

end RowGuard.Store
