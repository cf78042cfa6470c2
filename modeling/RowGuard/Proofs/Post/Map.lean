import RowGuard.Post.Service
import RowGuard.Proofs.Guard.Narrowed
import RowGuard.Proofs.Post.Stored

/-!
# A map of posts

What the post service is to its callers: a map of posts by their identifiers, on which each call has
an answer and an effect (`PostCall.serve`). No field map, no row and no filter of rows comes into it
but for one thing: the rules of a caller judge the row of a post.

A store shows a map of posts when its rows are the rows of these posts, in the same order
(`Store.Shows`). The map is then what reading the rows gives (`Store.Shows.posts_eq`).
-/

set_option autoImplicit false

namespace RowGuard

/-- **A call of the post service.** -/
inductive PostCall where
  | create (input : NewPost) (author : Int64)
  | findAll
  | findWhere (filter : Filter)
  | count (filter : Filter)
  | findOne (id : Int64)
  | update (id : Int64) (changes : PostChanges)
  | remove (id : Int64)
  | removeWhere (filter : Filter)

/-- What a call comes to if it succeeds. -/
inductive PostAnswer where
  | post (p : Post)
  | posts (ps : List Post)
  | count (n : Nat)

/-- An answer all of whose posts have dates that exist. -/
def PostAnswer.Dated : PostAnswer → Prop
  | post p => p.Dated
  | posts ps => ∀ p ∈ ps, p.Dated
  | count _ => True

/-- **The dialogue of a call.** -/
def PostCall.dialogue : PostCall → Dialogue (Result PostAnswer)
  | create input author => (PostService.create input author).map (Except.map .post)
  | findAll => PostService.findAll.map (Except.map .posts)
  | findWhere filter => (PostService.findWhere filter).map (Except.map .posts)
  | count filter => (PostService.count filter).map (Except.map .count)
  | findOne id => (PostService.findOne id).map (Except.map .post)
  | update id changes => (PostService.update id changes).map (Except.map .post)
  | remove id => (PostService.remove id).map (Except.map .post)
  | removeWhere filter => (PostService.removeWhere filter).map (Except.map .count)

/-! ## Calls on a map of posts -/

/-- Posts by their identifiers. -/
abbrev PostMap := Keyed Int64 Post

namespace PostMap

variable (rules : RuleSet) (action : Action)

/-- Whether a post passes a filter and may be acted on. -/
def selects (filter : Filter) (p : Post) : Bool := filter.admits p.row && rules.can action p.row

/-- **The posts that pass a filter** and may be acted on, in order of their identifiers. -/
def selected (filter : Filter) (posts : PostMap) : List Post :=
  (posts.map Prod.snd).filter (selects rules action filter)

/-- **An act on one post**, which has to be there and to allow it. -/
def onPost (id : Int64) (posts : PostMap) (after : Post → Post × PostMap) :
    Result PostAnswer × PostMap :=
  match posts.get? id with
  | none => (.error (.notFound ("Post with id " ++ toString id.toInt)), posts)
  | some p =>
    if rules.can action p.row then (.ok (.post (after p).1), (after p).2)
    else (.error .forbidden, posts)

end PostMap

/-- **What a call does to a map of posts**, in which `next` is the identifier for a new post: its
answer and the map after it. -/
def PostCall.serve (rules : RuleSet) (now : Timestamp) (next : Int64) (posts : PostMap) :
    PostCall → Result PostAnswer × PostMap
  | create input author =>
    if rules.can .create (Draft.mk .post (input.toFields.insert authorField (.ofId author))) then
      (.ok (.post (input.post next author now)), posts.insert next (input.post next author now))
    else (.error .forbidden, posts)
  | findAll => (.ok (.posts (posts.selected rules .read .pass)), posts)
  | findWhere filter => (.ok (.posts (posts.selected rules .read filter)), posts)
  | count filter => (.ok (.count (posts.selected rules .read filter).length), posts)
  | findOne id => posts.onPost rules .read id fun p => (p, posts)
  | update id changes =>
    posts.onPost rules .update id fun p =>
      (changes.applied now p, posts.insert id (changes.applied now p))
  | remove id => posts.onPost rules .delete id fun p => (p, posts.erase id)
  | removeWhere filter =>
    (.ok (.count (posts.selected rules .delete filter).length),
      posts.filter fun e => !PostMap.selects rules .delete filter e.2)

/-- A call fails in two ways only. -/
theorem PostCall.serve_error {rules : RuleSet} {now : Timestamp} {next : Int64} {posts : PostMap}
    {c : PostCall} {e : Error} (h : (c.serve rules now next posts).1 = .error e) :
    e = .forbidden ∨ ∃ id : Int64, e = .notFound ("Post with id " ++ toString id.toInt) := by
  have hone : ∀ action id after, (posts.onPost rules action id after).1 = .error e →
      e = .forbidden ∨ ∃ id : Int64, e = .notFound ("Post with id " ++ toString id.toInt) := by
    intro action id after h
    unfold PostMap.onPost at h
    split at h
    · cases h; exact .inr ⟨id, rfl⟩
    · split at h
      · cases h
      · cases h; exact .inl rfl
  cases c with
  | create input author =>
    rw [serve] at h
    split at h
    · cases h
    · cases h; exact .inl rfl
  | findAll | findWhere | count | removeWhere => cases h
  | findOne | update | remove => exact hone _ _ _ h

/-! ## Stores that show a map of posts -/

/-- **The posts in a store**, as reading its rows gives them. -/
def Store.posts (s : Store) : PostMap :=
  (s.table .post).rows.filterMap fun e => (Post.ofRecord e.2).toOption.map fun p => (e.1, p)

/-- **A store shows posts**: its rows are the rows of these posts, each under the identifier of its
post, and their dates exist. -/
structure Store.Shows (s : Store) (posts : PostMap) : Prop where
  rows : (s.table .post).rows = posts.map fun e => (e.1, e.2.row)
  valid : ∀ e ∈ posts, e.2.id = e.1 ∧ e.2.Dated

theorem Post.ofRecord_row {p : Post} (h : p.Dated) : Post.ofRecord p.row = .ok p := by
  have hread : Post.ofFields p.row.data = .ok p := Post.ofFields_stored h
  unfold ofRecord
  rw [hread]

theorem shows_empty : Store.empty.Shows [] := ⟨rfl, fun _ h => nomatch h⟩

namespace Store.Shows

variable {s : Store} {posts : PostMap} (h : s.Shows posts)

include h in
/-- **The posts that a store shows** are those that reading it gives. -/
theorem posts_eq : s.posts = posts := by
  have hread : ∀ entries : PostMap, (∀ e ∈ entries, e.2.id = e.1 ∧ e.2.Dated) →
      (entries.map fun e => (e.1, e.2.row)).filterMap
        (fun e => (Post.ofRecord e.2).toOption.map fun p => (e.1, p)) = entries := by
    intro entries hvalid
    induction entries with
    | nil => rfl
    | cons e rest ih =>
      have he : Post.ofRecord e.2.row = .ok e.2 := Post.ofRecord_row (hvalid e List.mem_cons_self).2
      have hone : (Post.ofRecord e.2.row).toOption.map (fun p => (e.1, p)) = some e := by
        rw [he]; rfl
      rw [List.map_cons, List.filterMap_cons, hone,
        ih fun e he => hvalid e (List.mem_cons_of_mem _ he)]
  rw [Store.posts, h.rows, hread posts h.valid]

include h in
/-- A row stands for the post under its identifier. -/
theorem row_eq (id : Int64) : s.row .post id = (posts.get? id).map Post.row := by
  unfold row
  rw [h.rows, Keyed.get?_mapValues]

include h in
theorem valid_of_get? {id : Int64} {p : Post} (hp : posts.get? id = some p) : p.id = id ∧ p.Dated :=
  h.valid (id, p) (Keyed.mem_of_get? hp)

include h in
/-- The posts stand in ascending order of their identifiers. -/
theorem ascending (hs : s.Sound) : (posts.map fun e => e.2.id).Pairwise (· < ·) := by
  have hrows := (hs .post).ascending
  rw [h.rows, Keyed.Ascending, List.pairwise_map] at hrows
  refine List.pairwise_map.2 (hrows.imp_of_mem fun {e e'} he he' hlt => ?_)
  rw [(h.valid e he).1, (h.valid e' he').1]
  exact hlt

include h in
/-- The rows that a caller may act on are those of the posts selected. -/
theorem permitted_eq (rules : RuleSet) {q : Query} (hq : q.model = .post) :
    s.permitted rules q = (posts.selected rules q.operation.action q.filter).map Post.row := by
  have hrecords : (s.table .post).rows.map Prod.snd = (posts.map Prod.snd).map Post.row := by
    rw [h.rows, List.map_map, List.map_map]
    rfl
  unfold permitted PostMap.selected
  rw [hq, hrecords, List.filter_map]
  rfl

end Store.Shows

/-- Reading rows of posts gives the posts. -/
theorem mapM_ofRecord {ps : List Post} (h : ∀ p ∈ ps, p.Dated) :
    (ps.map Post.row).mapM Post.ofRecord = .ok ps := by
  induction ps with
  | nil => rfl
  | cons p rest ih =>
    rw [List.map_cons, List.mapM_cons, Post.ofRecord_row (h p List.mem_cons_self),
      ih fun p hp => h p (List.mem_cons_of_mem _ hp)]
    rfl

end RowGuard
