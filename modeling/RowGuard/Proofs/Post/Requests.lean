import RowGuard.Proofs.Post.Refinement

/-!
# Calls with and without the guard

The post service does not know what its questions go through. Put straight to the store or by way
of the guard, in any context, each call changes the store by at most one query, which is the call's
own but for its filter; so whatever was called and however, the store shows a map of posts.

* `PostRequest.run`: a call, and how it reaches the store
* `Store.afterCalls_shows`: what holds of every store that such calls lead to
-/

set_option autoImplicit false

namespace RowGuard

/-- **A call of the post service** that reaches the store as it is or through the guard, at a clock
reading. A `PostVisit` is one through the guard. -/
structure PostRequest where
  call : PostCall
  access : Access
  now : Timestamp

namespace PostRequest

/-- **A call carried out** on a store: its answer, and the store after it. -/
def run (r : PostRequest) (s : Store) : Result PostAnswer × Store :=
  (r.call.dialogue.through r.access.dialogue).run (Store.execute r.now) s

/-- The one query of a call as a request to the store. -/
def request (r : PostRequest) : Request :=
  ⟨r.access, r.call.query, r.now, r.call.ascending_query⟩

theorem run_eq (r : PostRequest) (s : Store) :
    r.run s = (r.call.read (r.request.run s).1, (r.request.run s).2) := by
  unfold run
  rw [r.call.dialogue_eq, Dialogue.through_map, Dialogue.run_map, Dialogue.run_query_through]
  rfl

end PostRequest

/-- **The store after some calls.** -/
def Store.afterCalls (s : Store) (requests : List PostRequest) : Store :=
  requests.foldl (fun s r => (r.run s).2) s

namespace Store

variable {s : Store} {posts : PostMap}

/-- **The query of a call leaves rows of posts**, whatever its filter was narrowed to. -/
theorem Shows.execute (h : s.Shows posts) {now : Timestamp} (hnow : now.Exists)
    (c : PostCall) (filter : Filter) :
    ∃ posts', (s.execute now { c.query with filter }).2.Shows posts' := by
  cases c with
  | findAll | findWhere | count | findOne =>
    refine ⟨posts, ?_⟩
    rw [execute_read now _ s rfl]
    exact h
  | create input author =>
    -- the filter of a creation plays no part
    have hdated := input.dated_post ((s.table .post).lastId + 1) author hnow
    exact ⟨_, shows_of_rows (congrArg Prod.snd (execute_newPost h input author filter))
      (valid_insert h hdated)⟩
  | update id changes =>
    cases hfound : (s.table .post).byId id filter with
    | none =>
      have hkeep : (s.execute now { (PostCall.update id changes).query with filter }).2 = s :=
        execute_not_found (.inl rfl) rfl hfound
      exact ⟨posts, hkeep.symm ▸ h⟩
    | some r =>
      obtain ⟨p, hp, rfl⟩ := post_of_byId h hfound
      obtain ⟨rfl, hdated⟩ := h.valid_of_get? hp
      have hchanged := changes.dated_applied hnow hdated
      exact ⟨_, shows_of_rows (execute_change h changes hfound) (valid_insert h hchanged)⟩
  | remove id =>
    cases hfound : (s.table .post).byId id filter with
    | none =>
      have hkeep : (s.execute now { (PostCall.remove id).query with filter }).2 = s :=
        execute_not_found (.inr rfl) rfl hfound
      exact ⟨posts, hkeep.symm ▸ h⟩
    | some r =>
      obtain ⟨p, hp, rfl⟩ := post_of_byId h hfound
      exact ⟨_, shows_of_rows (execute_removal h hfound)
        fun e he => h.valid e (Keyed.mem_of_mem_erase he)⟩
  | removeWhere _ =>
    exact ⟨_, shows_of_rows (execute_clearance h filter)
      fun e he => h.valid e (List.mem_of_mem_filter he)⟩

/-- **One call leaves rows of posts**, however it reaches the store. -/
theorem Shows.run (h : s.Shows posts) (r : PostRequest) (hnow : r.now.Exists) :
    ∃ posts', (r.run s).2.Shows posts' := by
  rw [r.run_eq]
  -- with or without the guard at most one question changes the store, and it is the call's query
  rcases r.request.run_cases s with ⟨hkeep, -⟩ | ⟨asked, hputs, hrun, -⟩
  · exact ⟨posts, hkeep.symm ▸ h⟩
  · have hasked : asked = { r.call.query with filter := asked.filter } := hputs.same
    have hstep := h.execute hnow r.call asked.filter
    rw [← hasked] at hstep
    exact hrun.symm ▸ hstep

/-- **After any calls the store shows posts**, however each of them reached it. -/
theorem afterCalls_shows (h : s.Shows posts) (requests : List PostRequest)
    (hclock : ∀ r ∈ requests, r.now.Exists) : ∃ posts', (s.afterCalls requests).Shows posts' := by
  induction requests generalizing s posts with
  | nil => exact ⟨posts, h⟩
  | cons r rest ih =>
    obtain ⟨posts', hshows⟩ := h.run r (hclock r List.mem_cons_self)
    exact ih hshows fun r hr => hclock r (List.mem_cons_of_mem _ hr)

end Store

end RowGuard
