import RowGuard.Proofs.Clients.History
import RowGuard.Proofs.Dialogue
import RowGuard.Proofs.Guard.Scoped
import RowGuard.Proofs.Post.Writes

/-!
# The post service refines a map of posts

Each call of the post service, put through the guard to the in-memory store, answers as it would on
the map of posts that the store shows, and leaves a store that shows the map after it
(`PostVisit.serves`). So a row that is no post never comes into being, and whatever the calls and
their contexts, a call fails only because it is forbidden or its post is missing.

* `PostVisit.run`: one call, in a context of its own
* `PostService.refines_map`: what holds after any calls, and of the call after them
-/

set_option autoImplicit false

namespace RowGuard

/-! ## A call is one query -/

namespace PostCall

/-- The query of a call. -/
def query : PostCall → Query
  | create input author => .create .post (input.toFields.insert authorField (.ofId author))
  | findAll => .findMany .post .pass
  | findWhere filter => .findMany .post filter
  | count filter => .count .post filter
  | findOne id => .findUnique .post id
  | update id changes => .update .post id changes.toFields
  | remove id => .delete .post id
  | removeWhere filter => .deleteMany .post filter

/-- What a call makes of the answer to its query. -/
def read : PostCall → Result Output → Result PostAnswer
  | create _ _, answer =>
    (match answer.bind Output.toRecord with
      | .error e => .error e
      | .ok none => .error (.internal "create returned no record")
      | .ok (some r) => Post.ofRecord r : Result Post).map .post
  | findAll, answer | findWhere _, answer =>
    ((answer.bind Output.toRecords).bind fun rs => rs.mapM Post.ofRecord).map .posts
  | count _, answer | removeWhere _, answer => (answer.bind Output.toCount).map .count
  | findOne id, answer | update id _, answer | remove id, answer =>
    (PostService.onePost id answer).map .post

theorem dialogue_eq (c : PostCall) : c.dialogue = (Dialogue.query c.query).map c.read := by
  cases c <;> rfl

/-- A field that is given or not is at most one. -/
theorem present_sublist (name : String) (v : Option Json) :
    ((Json.present name v).map Prod.fst).Sublist [name] := by
  cases v with
  | none => exact List.nil_sublist _
  | some v => exact List.Sublist.refl _

theorem ascending_of_names {m : Fields}
    (h : (m.map Prod.fst).Sublist ["content", "published", "title"]) :
    m.Ascending := by
  have hnames : ["content", "published", "title"].Pairwise (· < ·) := by decide
  exact List.pairwise_map.1 (hnames.sublist h)

theorem ascending_query (c : PostCall) (data : Fields) (h : c.query.data = some data) :
    data.Ascending := by
  cases c with
  | create input author =>
    obtain rfl := Option.some.inj h
    refine Keyed.Ascending.insert (ascending_of_names ?_) _ _
    rw [NewPost.toFields, List.map_append]
    exact (present_sublist "content" _).append (List.Sublist.refl ["published", "title"])
  | update id changes =>
    obtain rfl := Option.some.inj h
    refine ascending_of_names ?_
    rw [PostChanges.toFields, List.map_append, List.map_append]
    exact (present_sublist "content" _).append
      ((present_sublist "published" _).append (present_sublist "title" _))
  | findAll | findWhere | count | findOne | remove | removeWhere => cases h

end PostCall

/-- **A call of the post service**, in a context of its own or without any, at a clock reading. -/
structure PostVisit where
  call : PostCall
  context : Option RequestContext
  now : Timestamp

namespace PostVisit

/-- **A call carried out** on a store: its answer, and the store after it. -/
def run (v : PostVisit) (s : Store) : Result PostAnswer × Store :=
  (v.call.dialogue.inContext v.context).run (Store.execute v.now) s

/-- The call as a request to the store. -/
def request (v : PostVisit) : Request :=
  ⟨.inContext v.context, v.call.query, v.now, v.call.ascending_query⟩

theorem run_eq (v : PostVisit) (s : Store) : v.run s =
    (v.call.read (s.executeIn v.context v.now v.call.query).1,
      (s.executeIn v.context v.now v.call.query).2) := by
  unfold run
  rw [v.call.dialogue_eq, Dialogue.inContext_map, Dialogue.run_map,
    Dialogue.run_query_inContext]

end PostVisit

/-- **The store after some calls.** -/
def Store.afterVisits (s : Store) (visits : List PostVisit) : Store :=
  visits.foldl (fun s v => (v.run s).2) s

theorem Store.afterVisits_eq (s : Store) (visits : List PostVisit) :
    s.afterVisits visits = s.after (visits.map PostVisit.request) := by
  have hstep : (fun (s : Store) (v : PostVisit) => (v.run s).2) =
      fun s v => (v.request.run s).2 := by
    funext s v
    rw [v.run_eq]
    rfl
  unfold afterVisits after
  rw [hstep, List.foldl_map]

/-! ## One call -/

/-- **A call serves a map of posts**: it answers as on the map, leaves a store that shows the map
after it, and where it fails leaves the store as it was. -/
structure Store.Serves (s : Store) (outcome : Result PostAnswer × Store)
    (served : Result PostAnswer × PostMap) : Prop where
  answer : outcome.1 = served.1
  shows : outcome.2.Shows served.2
  failed : ∀ e, outcome.1 = .error e → outcome.2 = s

namespace Store

variable {s : Store} {posts : PostMap} (context : Option RequestContext) {now : Timestamp}

/-- A call that only reads, or fails. -/
theorem serves_unchanged (h : s.Shows posts) (answer : Result PostAnswer) :
    s.Serves (answer, s) (answer, posts) := ⟨rfl, h, fun _ _ => rfl⟩

/-- A call that succeeds. -/
theorem serves_changed {s' : Store} (h : s'.Shows posts) (answer : PostAnswer) :
    s.Serves (.ok answer, s') (.ok answer, posts) := ⟨rfl, h, nofun⟩

/-- **A new post.** -/
theorem serves_create (h : s.Shows posts) (hnow : now.Exists) (input : NewPost) (author : Int64) :
    s.Serves ((PostVisit.mk (.create input author) context now).run s)
      ((PostCall.create input author).serve (effectiveRules context) now
        ((s.table .post).lastId + 1) posts) := by
  have hdated := input.dated_post ((s.table .post).lastId + 1) author hnow
  rw [PostVisit.run_eq, PostCall.serve]
  dsimp only [PostCall.query]
  have hrun : s.executeIn context now
      (.create .post (input.toFields.insert authorField (.ofId author))) =
        if (effectiveRules context).can .create
            (Draft.mk .post (input.toFields.insert authorField (.ofId author))) then
          s.execute now (.create .post (input.toFields.insert authorField (.ofId author)))
        else (.error .forbidden, s) :=
    executeIn_draft context now rfl rfl
  rw [hrun]
  split
  · -- the row that is made is that of the new post
    have hmade : s.execute now
        (.create .post (input.toFields.insert authorField (.ofId author))) =
          (.ok (.record (some (input.post ((s.table .post).lastId + 1) author now).row)),
            s.withTable .post ⟨(s.table .post).lastId + 1,
              (posts.insert ((s.table .post).lastId + 1)
                (input.post ((s.table .post).lastId + 1) author now)).map
                fun e => (e.1, e.2.row)⟩) :=
      execute_newPost h input author .pass
    have hread : (PostCall.create input author).read
        (.ok (.record (some (input.post ((s.table .post).lastId + 1) author now).row))) =
          .ok (.post (input.post ((s.table .post).lastId + 1) author now)) :=
      congrArg (Except.map PostAnswer.post) (Post.ofRecord_row hdated)
    rw [hmade, hread]
    exact serves_changed (shows_withTable _ (valid_insert h hdated)) _
  · exact serves_unchanged h _

/-! ### Calls about many posts -/

theorem dated_selected (h : s.Shows posts) (rules : RuleSet) (action : Action) (filter : Filter) :
    ∀ p ∈ posts.selected rules action filter, p.Dated := by
  intro p hp
  obtain ⟨e, he, rfl⟩ := List.mem_map.1 (List.mem_of_mem_filter hp)
  exact (h.valid e he).2

/-- **Listing the posts** that pass a filter. -/
theorem serves_list (h : s.Shows posts) (hs : s.Sound) (filter : Filter) :
    s.Serves ((PostVisit.mk (.findWhere filter) context now).run s)
      (.ok (.posts (posts.selected (effectiveRules context) .read filter)), posts) := by
  have hanswer := answer_bulk (q := .findMany .post filter) context now hs nofun rfl
  have hkeep := bulk_read (s := s) (q := .findMany .post filter) context now nofun rfl rfl
  rw [h.permitted_eq _ rfl] at hanswer
  have hread : (PostCall.findWhere filter).read (.ok (.records
      ((posts.selected (effectiveRules context) .read filter).map Post.row))) =
        .ok (.posts (posts.selected (effectiveRules context) .read filter)) :=
    congrArg (Except.map PostAnswer.posts)
      (mapM_ofRecord (dated_selected h (effectiveRules context) .read filter))
  rw [PostVisit.run_eq]
  dsimp only [PostCall.query]
  rw [hanswer, hkeep]
  exact hread ▸ serves_unchanged h _

/-- **Counting the posts** that pass a filter. -/
theorem serves_count (h : s.Shows posts) (hs : s.Sound) (filter : Filter) :
    s.Serves ((PostVisit.mk (.count filter) context now).run s)
      (.ok (.count (posts.selected (effectiveRules context) .read filter).length), posts) := by
  have hanswer := answer_bulk (q := .count .post filter) context now hs nofun rfl
  have hkeep := bulk_read (s := s) (q := .count .post filter) context now nofun rfl rfl
  have hcount : (Query.count .post filter).about
      ((posts.selected (effectiveRules context) .read filter).map Post.row) =
        .ok (.count (posts.selected (effectiveRules context) .read filter).length) :=
    congrArg (fun n => Except.ok (Output.count n)) (List.length_map ..)
  rw [h.permitted_eq _ rfl] at hanswer
  rw [PostVisit.run_eq]
  dsimp only [PostCall.query]
  rw [hanswer.trans hcount, hkeep]
  exact serves_unchanged h _

/-- **Removing the posts** that pass a filter. -/
theorem serves_clearance (h : s.Shows posts) (hs : s.Sound) (filter : Filter) :
    s.Serves ((PostVisit.mk (.removeWhere filter) context now).run s)
      (.ok (.count (posts.selected (effectiveRules context) .delete filter).length),
        posts.filter fun e => !PostMap.selects (effectiveRules context) .delete filter e.2) := by
  have hanswer := answer_bulk (q := .deleteMany .post filter) context now hs nofun rfl
  have hcount : (Query.deleteMany .post filter).about
      ((posts.selected (effectiveRules context) .delete filter).map Post.row) =
        .ok (.count (posts.selected (effectiveRules context) .delete filter).length) :=
    congrArg (fun n => Except.ok (Output.count n)) (List.length_map ..)
  -- the narrowed filter passes a row exactly when its post is selected
  have hselects : ∀ e : Int64 × Post,
      (Guard.narrowed (effectiveRules context) (.deleteMany .post filter)).filter.admits e.2.row =
        PostMap.selects (effectiveRules context) .delete filter e.2 :=
    fun e => Guard.admits_narrowed (q := .deleteMany .post filter) rfl
  have hkept : (posts.filter fun e => !(Guard.narrowed (effectiveRules context)
      (.deleteMany .post filter)).filter.admits e.2.row) =
      posts.filter fun e => !PostMap.selects (effectiveRules context) .delete filter e.2 :=
    List.filter_congr fun e _ => congrArg _ (hselects e)
  have hleft : (s.executeIn context now (.deleteMany .post filter)).2 =
      s.withTable .post ⟨(s.table .post).lastId, (posts.filter fun e =>
        !PostMap.selects (effectiveRules context) .delete filter e.2).map
          fun e => (e.1, e.2.row)⟩ := by
    rw [executeIn_bulk (q := .deleteMany .post filter) context now nofun rfl, ← hkept]
    exact execute_clearance h _
  rw [h.permitted_eq _ rfl] at hanswer
  rw [PostVisit.run_eq]
  dsimp only [PostCall.query]
  rw [hanswer.trans hcount, hleft]
  exact serves_changed (shows_withTable _ fun e he => h.valid e (List.mem_of_mem_filter he)) _

/-! ### Calls about one post -/

section OnePost

variable {q : Query} {id : Int64}

/-- **A call about one post** fails as on the map of posts, and what is left to show is what it does
if it may. -/
theorem serves_onPost (h : s.Shows posts) (hb : q.operation.isById = true) (hid : q.id = some id)
    (hmodel : q.model = .post) (hfilter : q.filter = .pass) (after : Post → Post × PostMap)
    (hallowed : ∀ p, posts.get? id = some p →
      (effectiveRules context).can q.operation.action p.row = true → (after p).1.Dated ∧
        ∃ s', s.executeIn context now q = (.ok (.record (some (after p).1.row)), s') ∧
          s'.Shows (after p).2) :
    s.Serves ((PostService.onePost id (s.executeIn context now q).1).map .post,
        (s.executeIn context now q).2)
      (posts.onPost (effectiveRules context) q.operation.action id after) := by
  have hrow : (s.row q.model id).filter q.filter.admits = (posts.get? id).map Post.row := by
    rw [hfilter, hmodel, h.row_eq]
    cases posts.get? id <;> rfl
  unfold PostMap.onPost
  cases hp : posts.get? id with
  | none =>
    rw [hp] at hrow
    rw [executeIn_missing context now hb hid hrow, hmodel]
    exact serves_unchanged h _
  | some p =>
    rw [hp] at hrow
    dsimp only
    cases hcan : (effectiveRules context).can q.operation.action p.row with
    | false =>
      rw [executeIn_forbidden context now hb hid hrow hcan]
      exact serves_unchanged h _
    | true =>
      obtain ⟨hdated, s', hrun, hshows⟩ := hallowed p hp hcan
      have hread : (PostService.onePost id (.ok (.record (some (after p).1.row)))) =
          .ok (after p).1 := Post.ofRecord_row hdated
      rw [hrun, if_pos rfl, hread]
      exact serves_changed hshows _

variable {id : Int64} {p : Post}

/-- The row of a post is what a query about it is about. -/
theorem row_of_get? (h : s.Shows posts) (hp : posts.get? id = some p) :
    (s.row .post id).filter Filter.pass.admits = some p.row := by
  rw [h.row_eq, hp]
  rfl

/-- An update that may go out stores the changed post. -/
theorem executeIn_change (h : s.Shows posts) (hs : s.Sound) (hnow : now.Exists)
    {changes : PostChanges} (hp : posts.get? id = some p)
    (hcan : (effectiveRules context).can .update p.row = true) :
    ∃ s', s.executeIn context now (.update .post id changes.toFields) =
        (.ok (.record (some (changes.applied now p).row)), s') ∧
      s'.Shows (posts.insert id (changes.applied now p)) := by
  obtain ⟨rfl, hdated⟩ := h.valid_of_get? hp
  have hfound : (s.table .post).byId p.id (Guard.narrowed (effectiveRules context)
      (.update .post p.id changes.toFields)).filter = some p.row :=
    narrowed_finds (q := .update .post p.id changes.toFields) context hs (row_of_get? h hp) hcan
  have hwrite := executeIn_write (q := .update .post p.id changes.toFields) context now rfl
    (row_of_get? h hp) hcan rfl nofun (answer_update now
      (q := Guard.narrowed (effectiveRules context) (.update .post p.id changes.toFields)) rfl rfl
      hfound)
  have hstored : (s.execute now (Guard.narrowed (effectiveRules context)
      (.update .post p.id changes.toFields))).2 = s.withTable .post ⟨(s.table .post).lastId,
        (posts.insert p.id (changes.applied now p)).map fun e => (e.1, e.2.row)⟩ :=
    execute_change h changes hfound
  have hanswer : p.row.apply ((Guard.narrowed (effectiveRules context)
      (.update .post p.id changes.toFields)).changes now) = (changes.applied now p).row :=
    changes.row_applied now p
  rw [hstored, hanswer] at hwrite
  refine ⟨_, hwrite, shows_withTable _ ?_⟩
  exact valid_insert h (p := changes.applied now p) (changes.dated_applied hnow hdated)

/-- A removal that may go out removes the post. -/
theorem executeIn_removal (h : s.Shows posts) (hs : s.Sound) (hp : posts.get? id = some p)
    (hcan : (effectiveRules context).can .delete p.row = true) :
    ∃ s', s.executeIn context now (.delete .post id) = (.ok (.record (some p.row)), s') ∧
      s'.Shows (posts.erase id) := by
  have hfound : (s.table .post).byId id (Guard.narrowed (effectiveRules context)
      (.delete .post id)).filter = some p.row :=
    narrowed_finds (q := .delete .post id) context hs (row_of_get? h hp) hcan
  have hwrite := executeIn_write (q := .delete .post id) context now rfl (row_of_get? h hp) hcan rfl
    nofun (answer_delete now (q := Guard.narrowed (effectiveRules context) (.delete .post id)) rfl
      rfl hfound)
  have hstored : (s.execute now (Guard.narrowed (effectiveRules context) (.delete .post id))).2 =
      s.withTable .post ⟨(s.table .post).lastId,
        (posts.erase id).map fun e => (e.1, e.2.row)⟩ := execute_removal h hfound
  rw [hstored] at hwrite
  exact ⟨_, hwrite, shows_withTable _ fun e he => h.valid e (Keyed.mem_of_mem_erase he)⟩

end OnePost

end Store

/-- **Each call serves the map of posts** that the store shows. -/
theorem PostVisit.serves {s : Store} {posts : PostMap} (v : PostVisit) (h : s.Shows posts)
    (hs : s.Sound) (hnow : v.now.Exists) :
    s.Serves (v.run s) (v.call.serve (effectiveRules v.context) v.now ((s.table .post).lastId + 1)
      posts) := by
  obtain ⟨call, context, now⟩ := v
  cases call with
  | create input author => exact Store.serves_create context h hnow input author
  | findAll => exact Store.serves_list context h hs .pass
  | findWhere filter => exact Store.serves_list context h hs filter
  | count filter => exact Store.serves_count context h hs filter
  | removeWhere filter => exact Store.serves_clearance context h hs filter
  | findOne id =>
    rw [run_eq]
    refine Store.serves_onPost (q := .findUnique .post id) context h rfl rfl rfl rfl
      (fun p => (p, posts)) fun p hp hcan => ⟨(h.valid_of_get? hp).2, s, ?_, h⟩
    exact Store.executeIn_found context now rfl (Store.row_of_get? h hp) hcan rfl
  | update id changes =>
    rw [run_eq]
    refine Store.serves_onPost (q := .update .post id changes.toFields) context h rfl rfl rfl rfl
      (fun p => (changes.applied now p, posts.insert id (changes.applied now p)))
      fun p hp hcan => ⟨changes.dated_applied hnow (h.valid_of_get? hp).2, ?_⟩
    exact Store.executeIn_change context h hs hnow hp hcan
  | remove id =>
    rw [run_eq]
    refine Store.serves_onPost (q := .delete .post id) context h rfl rfl rfl rfl
      (fun p => (p, posts.erase id)) fun p hp hcan => ⟨(h.valid_of_get? hp).2, ?_⟩
    exact Store.executeIn_removal context h hs hp hcan

/-- **Every post in an answer** has dates that exist. -/
theorem PostCall.dated_answer {s : Store} {posts : PostMap} (h : s.Shows posts) {now : Timestamp}
    (hnow : now.Exists) {c : PostCall} {rules : RuleSet} {next : Int64} {answer : PostAnswer}
    (ha : (c.serve rules now next posts).1 = .ok answer) : answer.Dated := by
  have hone : ∀ {action : Action} {id : Int64} {after : Post → Post × PostMap},
      (∀ p : Post, p.Dated → (after p).1.Dated) →
      (posts.onPost rules action id after).1 = .ok answer → answer.Dated := by
    intro action id after hafter ha
    unfold PostMap.onPost at ha
    split at ha
    · cases ha
    · rename_i p hp
      split at ha
      · cases ha
        exact hafter p (h.valid_of_get? hp).2
      · cases ha
  cases c with
  | create input author =>
    rw [serve] at ha
    split at ha
    · cases ha
      exact input.dated_post next author hnow
    · cases ha
  | findAll | findWhere =>
    cases ha
    exact Store.dated_selected h rules .read _
  | count | removeWhere =>
    cases ha
    exact trivial
  | findOne | remove => exact hone (fun p hp => hp) ha
  | update id changes => exact hone (fun p hp => changes.dated_applied hnow hp) ha

/-! ## Any calls -/

/-- After any calls the store is in order and shows a map of posts. -/
theorem Store.afterVisits_shows {s : Store} {posts : PostMap} (h : s.Shows posts) (hs : s.Sound)
    (visits : List PostVisit) (hclock : ∀ v ∈ visits, v.now.Exists) :
    (s.afterVisits visits).Sound ∧ ∃ posts', (s.afterVisits visits).Shows posts' := by
  induction visits generalizing s posts with
  | nil => exact ⟨hs, posts, h⟩
  | cons v rest ih =>
    have hserves := v.serves h hs (hclock v List.mem_cons_self)
    have hsound : (v.run s).2.Sound := by
      rw [v.run_eq]
      exact hs.run v.request
    exact ih hserves.shows hsound fun v hv => hclock v (List.mem_cons_of_mem _ hv)

/-- The next identifier is that of no post, until the count of identifiers has started over. -/
theorem Store.Shows.next_free {visits : List PostVisit} {posts : PostMap}
    (h : (Store.empty.afterVisits visits).Shows posts) :
    posts.get? (((Store.empty.afterVisits visits).table .post).lastId + 1) = none ∨
      2 ^ 64 ≤ visits.length := by
  cases hp : posts.get? (((Store.empty.afterVisits visits).table .post).lastId + 1) with
  | none => exact .inl rfl
  | some p =>
    have hrow := h.row_eq (((Store.empty.afterVisits visits).table .post).lastId + 1)
    rw [hp, afterVisits_eq] at hrow
    have hmany := (counted_after (visits.map PostVisit.request) .post).next_free hrow
    have hfew := made_le_length (s := empty) (visits.map PostVisit.request) .post
    rw [List.length_map] at hfew
    exact .inr (Nat.le_trans hmany hfew)

/-- **The post service refines a map of posts.** Take any calls, each in any context or without one,
from the store that never had a row. Every row of a post then reads as the post it is the row of.
Whatever is called next answers as it would on the map of posts in the store, and turns this map
into the one that it would be turned into; it fails only because it is forbidden or its post is
missing, and then leaves the whole store as it was. A new post gets an identifier of its own, unless
`2 ^ 64` calls came before it. -/
theorem PostService.refines_map (past : List PostVisit) (hpast : ∀ v ∈ past, v.now.Exists) :
    let s := Store.empty.afterVisits past
    let next := (s.table .post).lastId + 1
    (∀ id r, s.row .post id = some r →
      ∃ p, Post.ofRecord r = .ok p ∧ r = p.row ∧ p.id = id ∧ s.posts.get? id = some p) ∧
    (s.posts.get? next = none ∨ 2 ^ 64 ≤ past.length) ∧
    ∀ v : PostVisit, v.now.Exists →
      let answer := (v.run s).1
      let s' := (v.run s).2
      (answer, s'.posts) = v.call.serve (effectiveRules v.context) v.now next s.posts ∧
      ∀ e, answer = .error e → s' = s ∧
        (e = .forbidden ∨ ∃ id : Int64, e = .notFound ("Post with id " ++ toString id.toInt)) := by
  intro s next
  obtain ⟨hs, posts, h⟩ := Store.afterVisits_shows shows_empty Store.sound_empty past hpast
  rw [h.posts_eq]
  refine ⟨fun id r hr => ?_, h.next_free, fun v hnow => ?_⟩
  · rw [h.row_eq, Option.map_eq_some_iff] at hr
    obtain ⟨p, hp, rfl⟩ := hr
    obtain ⟨hid, hdated⟩ := h.valid_of_get? hp
    exact ⟨p, Post.ofRecord_row hdated, rfl, hid, hp⟩
  · intro answer s'
    have hserves := v.serves h hs hnow
    have hposts : s'.posts = (v.call.serve (effectiveRules v.context) v.now next posts).2 :=
      hserves.shows.posts_eq
    refine ⟨Prod.ext hserves.answer hposts, fun e he => ⟨hserves.failed e he, ?_⟩⟩
    exact PostCall.serve_error (hserves.answer.symm.trans he)

theorem dayOne_exists : Store.dayOne.Exists :=
  ⟨by decide, by decide, by decide, by decide, by decide⟩

/-- A post of user 1. -/
def greeting : Post := ⟨1, "Hello", none, true, 1, Store.dayOne, Store.dayOne⟩

/-- User 1 writes a post. User 2 may not change it. -/
theorem PostService.post_of_another_stays :
    let written : PostVisit :=
      ⟨.create ⟨"Hello", none, true⟩ 1, some (.forCaller (some (.user 1))), Store.dayOne⟩
    let changed : PostVisit :=
      ⟨.update 1 ⟨some "Bye", none, none⟩, some (.forCaller (some (.user 2))), Store.dayOne⟩
    let s := Store.empty.afterVisits [written]
    (∀ v ∈ [written], v.now.Exists) ∧ changed.now.Exists ∧ s.posts = [(1, greeting)] ∧
      (changed.run s).1 = .error .forbidden ∧ (changed.run s).2 = s := by
  intro written changed s
  have hclock : ∀ v ∈ [written], v.now.Exists := by
    intro v hv
    rw [List.mem_singleton.1 hv]
    exact dayOne_exists
  have hposts : s.posts = [(1, greeting)] := by
    obtain ⟨-, -, hfirst⟩ := PostService.refines_map [] (fun _ h => nomatch h)
    obtain ⟨hserved, -⟩ := hfirst written dayOne_exists
    have hempty : (Store.empty.afterVisits []).posts = [] := rfl
    have hnext : ((Store.empty.afterVisits []).table .post).lastId + 1 = 1 := rfl
    have hserve : written.call.serve (effectiveRules written.context) written.now 1 [] =
        (.ok (.post greeting), [(1, greeting)]) := rfl
    rw [hempty, hnext, hserve, Prod.mk.injEq] at hserved
    exact hserved.2
  obtain ⟨-, -, hnext⟩ := PostService.refines_map [written] hclock
  obtain ⟨hserved, hfailed⟩ := hnext changed dayOne_exists
  have hserve : ∀ next, changed.call.serve (effectiveRules changed.context) changed.now next
      [(1, greeting)] = (.error .forbidden, [(1, greeting)]) := fun _ => rfl
  rw [hposts, hserve, Prod.mk.injEq] at hserved
  exact ⟨hclock, dayOne_exists, hposts, hserved.1, (hfailed _ hserved.1).1⟩

end RowGuard
