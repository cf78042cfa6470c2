import RowGuard.Proofs.Http.Asks
import RowGuard.Proofs.Http.Caller
import RowGuard.Proofs.Http.Replies

/-!
# The service from end to end

Requests of any kind come in one after the other, on a store that never had a row. The caller is
found by the headers, and everything is put through the guard under the caller's rules. Still each
request about posts is answered as on the map of posts in the store, with the status that its first
fault determines (`posts_served`), and no request changes anything unless it succeeds.

* `Exchange.run`: one request, carried out
* `Exchange.run_cases`: at most one call of the post service comes of it
-/

set_option autoImplicit false

namespace RowGuard.Http

/-- **A request received** at a clock reading, after the service has been running for some seconds.
It is named `fresh` if it brings no name of its own. -/
structure Exchange where
  request : Request
  now : Timestamp
  fresh : String
  uptime : Nat

namespace Exchange

variable (version : String) (x : Exchange) (s : Store)

/-- The service that finds callers in the headers. -/
def service : Service := ⟨identify, version, x.uptime⟩

/-- **A request carried out**: the response, and the store after it. -/
def run : Response × Store :=
  ((x.service version).respond x.fresh x.request).run (Store.execute x.now) s

theorem contextOf_eq (headers : Headers) :
    (x.service version).contextOf headers = .forCaller (callerOf headers) := by
  unfold Service.contextOf callerOf service
  dsimp only
  cases identify headers <;> rfl

/-- A request that makes a call is answered with the result of the call. -/
theorem run_of_call {call : Call} (hm : x.request.method ≠ "OPTIONS")
    (hcall : x.request.call = .ok call) :
    let caller := callerOf x.request.headers
    let result := ((call.perform (x.service version) caller).inContext
      (some (.forCaller caller))).run (Store.execute x.now) s
    x.run version s = (Service.finish x.fresh x.request (callResponse result.1), result.2) := by
  intro caller result
  have hhandle : (x.service version).handle x.request =
      ((call.perform (x.service version) caller).inContext
        (some (.forCaller caller))).map callResponse := by
    unfold Service.handle
    rw [hcall]
    dsimp only
    rw [contextOf_eq, RequestContext.caller_forCaller]
  unfold run Service.respond
  rw [if_neg hm, hhandle, Dialogue.run_map, Dialogue.run_map]

/-- A request that makes no call changes nothing. -/
theorem run_of_no_call (h : x.request.method = "OPTIONS" ∨ ∃ e, x.request.call = .error e) :
    (x.run version s).2 = s := by
  unfold run Service.respond
  by_cases hm : x.request.method = "OPTIONS"
  · rw [if_pos hm]
    rfl
  · obtain ⟨e, he⟩ := h.resolve_left hm
    rw [if_neg hm, Service.handle, he]
    rfl

/-- The call of the post service that a request comes to. -/
def visit (c : PostCall) : PostVisit :=
  ⟨c, some (.forCaller (callerOf x.request.headers)), x.now⟩

/-- The response to a request that comes to a call of the post service. -/
def responseTo (status : Nat) (answer : Result PostAnswer) : Response :=
  Service.finish x.fresh x.request (callResponse (tell status answer))

theorem run_of_served {call : Call} {c : PostCall} {status : Nat}
    (hm : x.request.method ≠ "OPTIONS") (hcall : x.request.call = .ok call)
    (hdo : call.perform (x.service version) (callerOf x.request.headers) =
      c.dialogue.map (tell status)) :
    x.run version s =
      (x.responseTo status ((x.visit c).run s).1, ((x.visit c).run s).2) := by
  rw [x.run_of_call version s hm hcall, hdo, Dialogue.inContext_map, Dialogue.run_map]
  rfl

/-- **Everything a request can do**: nothing, or one call of the post service, which is reported
with a status of success if it succeeds. -/
theorem run_cases : (x.run version s).2 = s ∨ ∃ c status, 200 ≤ status ∧ status < 300 ∧
    x.run version s = (x.responseTo status ((x.visit c).run s).1, ((x.visit c).run s).2) := by
  by_cases hm : x.request.method = "OPTIONS"
  · exact .inl (x.run_of_no_call version s (.inl hm))
  cases hcall : x.request.call with
  | error e => exact .inl (x.run_of_no_call version s (.inr ⟨e, hcall⟩))
  | ok call =>
    cases call.carried (x.service version) (callerOf x.request.headers) with
    | atOnce hdo =>
      rw [x.run_of_call version s hm hcall, hdo]
      exact .inl rfl
    | served hstatus hdo =>
      exact .inr ⟨_, _, hstatus.1, hstatus.2, x.run_of_served version s hm hcall hdo⟩

end Exchange

/-- A response is sent with its status, -/
theorem status_finish (fresh : String) (r : Request) (response : Response) :
    (Service.finish fresh r response).status = response.status := by
  unfold Service.finish
  dsimp only
  split <;> rfl

/-- and with its content unless only headers are asked for. -/
theorem Response.Gives.finish {response : Response} {reply : Reply} (h : response.Gives reply)
    (fresh : String) {r : Request} (hm : r.method ≠ "HEAD") :
    (Service.finish fresh r response).Gives reply := by
  unfold Service.finish
  rw [if_neg hm]
  exact ⟨h.status, h.content⟩

namespace Exchange

variable (version : String) (x : Exchange) {s : Store} {posts : PostMap} (h : s.Shows posts)
  (hs : s.Sound) (hnow : x.now.Exists)

include h hs hnow in
/-- **A request changes the store only if it succeeds.** -/
theorem unchanged_or_success :
    (x.run version s).2 = s ∨
      200 ≤ (x.run version s).1.status ∧ (x.run version s).1.status < 300 := by
  rcases x.run_cases version s with hkeep | ⟨c, status, hlow, hhigh, hrun⟩
  · exact .inl hkeep
  · have hserves := (x.visit c).serves h hs hnow
    rw [hrun]
    cases hanswer : ((x.visit c).run s).1 with
    | error e => exact .inl (hserves.failed e hanswer)
    | ok answer =>
      have hstatus : (x.responseTo status (.ok answer)).status = status := status_finish ..
      dsimp only
      rw [hstatus]
      exact .inr ⟨hlow, hhigh⟩

include h hs hnow in
/-- **A request that asks for a call** is given the reply of the call. -/
theorem gives_reply {call : Call} (hasks : x.request.Asks call) :
    let next := (s.table .post).lastId + 1
    let reply := call.reply (callerOf x.request.headers) x.now next posts
    (x.run version s).1.Gives reply ∧ (x.run version s).2.posts = reply.posts := by
  intro next reply
  have hcall := hasks.call_eq
  obtain ⟨hhead, hoptions⟩ := hasks.ne_head
  cases call.carried (x.service version) (callerOf x.request.headers) with
  | atOnce hdo hreply =>
    obtain ⟨hgives, hposts⟩ := hreply x.now next posts
    rw [x.run_of_call version s hoptions hcall, hdo, hposts]
    exact ⟨hgives.finish _ hhead, h.posts_eq⟩
  | @served c status _ hdo hreply =>
    obtain ⟨hanswer, hshows, -⟩ := (x.visit c).serves h hs hnow
    have htold := hreply x.now next posts
    rw [show reply = _ from htold, x.run_of_served version s hoptions hcall hdo, hanswer,
      hshows.posts_eq, told_posts]
    exact ⟨(gives_told status (fun _ => PostCall.dated_answer h hnow) _).finish _ hhead, rfl⟩

end Exchange

/-! ## Any requests -/

/-- **The store after some requests**, from the one that never had a row. -/
def storeAfter (version : String) (past : List Exchange) : Store :=
  past.foldl (fun s x => (x.run version s).2) .empty

/-- What requests do to the store, calls of the post service do, and no more of them. -/
theorem storeAfter_eq (version : String) (past : List Exchange) :
    ∃ visits : List PostVisit, storeAfter version past = Store.empty.afterVisits visits ∧
      visits.length ≤ past.length ∧ ∀ v ∈ visits, ∃ x ∈ past, x.now = v.now := by
  suffices h : ∀ s : Store, ∃ visits : List PostVisit,
      past.foldl (fun s x => (x.run version s).2) s = s.afterVisits visits ∧
        visits.length ≤ past.length ∧ ∀ v ∈ visits, ∃ x ∈ past, x.now = v.now from h .empty
  induction past with
  | nil => exact fun s => ⟨[], rfl, Nat.le_refl 0, nofun⟩
  | cons x rest ih =>
    intro s
    obtain ⟨visits, hstore, hlength, hclock⟩ := ih (x.run version s).2
    have hrest : ∀ v ∈ visits, ∃ y ∈ x :: rest, y.now = v.now := by
      intro v hv
      obtain ⟨y, hy, hnow⟩ := hclock v hv
      exact ⟨y, List.mem_cons_of_mem _ hy, hnow⟩
    rw [List.foldl_cons, hstore]
    rcases x.run_cases version s with hkeep | ⟨c, status, -, -, hrun⟩
    · rw [hkeep]
      exact ⟨visits, rfl, Nat.le_succ_of_le hlength, hrest⟩
    · rw [hrun]
      refine ⟨x.visit c :: visits, rfl, Nat.succ_le_succ hlength, fun v hv => ?_⟩
      rcases List.mem_cons.1 hv with rfl | hv
      · exact ⟨x, List.mem_cons_self, rfl⟩
      · exact hrest v hv

/-- **The service from end to end.** Take any requests, one after the other, on a store that never
had a row. The rows in it are then those of posts, in order of their identifiers. Whatever comes
next changes the store only if it is answered with success. If it asks for a call, by its method,
its address and its body, then it is answered, and the posts in the store become, as the call would
come to for the sender on the map of these posts: a new one is put under an identifier of its own,
unless `2 ^ 64` requests came before it. -/
theorem posts_served (version : String) (past : List Exchange) (hpast : ∀ x ∈ past, x.now.Exists) :
    let s := storeAfter version past
    let next := (s.table .post).lastId + 1
    (s.table .post).rows = s.posts.map (fun e => (e.1, e.2.row)) ∧
    (s.posts.map fun e => e.2.id).Pairwise (· < ·) ∧
    (∀ id p, s.posts.get? id = some p → p.id = id) ∧
    (s.posts.get? next = none ∨ 2 ^ 64 ≤ past.length) ∧
    ∀ x : Exchange, x.now.Exists →
      let response := (x.run version s).1
      let s' := (x.run version s).2
      (s' = s ∨ 200 ≤ response.status ∧ response.status < 300) ∧
      ∀ sender call, SentBy x.request.headers sender → x.request.Asks call →
        let reply := call.reply sender x.now next s.posts
        response.Gives reply ∧ s'.posts = reply.posts := by
  intro s next
  obtain ⟨visits, hstore, hlength, hclock⟩ := storeAfter_eq version past
  have hvisits : ∀ v ∈ visits, v.now.Exists := by
    intro v hv
    obtain ⟨x, hx, hnow⟩ := hclock v hv
    rw [← hnow]
    exact hpast x hx
  -- requests that make no call leave the store alone, so visits are all that has to be followed
  have hs : s = Store.empty.afterVisits visits := hstore
  obtain ⟨hsound, posts, hshows⟩ :=
    Store.afterVisits_shows shows_empty Store.sound_empty visits hvisits
  have hfree := hshows.next_free
  rw [← hs] at hsound hshows hfree
  rw [hshows.posts_eq]
  refine ⟨hshows.rows, hshows.ascending hsound, fun id p hp => (hshows.valid_of_get? hp).1,
    hfree.imp_right fun h => Nat.le_trans h hlength, fun x hnow => ⟨?_, ?_⟩⟩
  · exact x.unchanged_or_success version hshows hsound hnow
  · intro sender call hsender hasks
    have hreply := call.reply_congr hsender.id_role_eq x.now next posts
    dsimp only
    rw [hreply]
    exact x.gives_reply version hshows hsound hnow hasks

/-- A text as the bytes of a header, for characters of ASCII. -/
def headerBytes (text : String) : List UInt8 := text.toList.map fun c => UInt8.ofNat c.toNat

/-- User 1 writes a post. -/
def posting : Exchange where
  request := ⟨"POST", "/posts",
    [("content-type", headerBytes "application/json"), (userIdHeader, headerBytes "1")],
    "\x7b\"title\": \"Hello\"\x7d"⟩
  now := Store.dayOne
  fresh := "first"
  uptime := 1

/-- Another title. -/
def retitling : PostChanges := ⟨some "Bye", none, none⟩

/-- User 1 changes the title an hour later. -/
def editing : Exchange where
  request := ⟨"PATCH", postUri 1,
    [("content-type", headerBytes "Application/JSON; charset=utf-8"),
      (userIdHeader, headerBytes "1")], retitling.toJson.text⟩
  now := { Store.dayOne with hour := 1 }
  fresh := "second"
  uptime := 2

/-- User 2 deletes it. -/
def deletion : Exchange where
  request := ⟨"DELETE", postUri 1, [(userIdHeader, headerBytes "2")], ""⟩
  now := Store.dayOne
  fresh := "third"
  uptime := 3

/-- Somebody lists the posts. -/
def reading : Exchange where
  request := ⟨"GET", "/posts", [], ""⟩
  now := Store.dayOne
  fresh := "fourth"
  uptime := 4

/-- What user 1 writes and changes is stored and listed, and user 2 may not delete it. -/
theorem changed_post_listed :
    let written : Post := ⟨1, "Hello", none, false, 1, posting.now, posting.now⟩
    let changed : Post := { written with title := "Bye", updatedAt := editing.now }
    let s := storeAfter "1" [posting, editing]
    (∀ x ∈ [posting, editing], x.now.Exists) ∧
    posting.request.Asks (.create ⟨"Hello", none, false⟩) ∧
    editing.request.Asks (.change 1 retitling) ∧ deletion.request.Asks (.remove 1) ∧
    reading.request.Asks .list ∧ s.posts = [(1, changed)] ∧
    (deletion.run "1" s).1.status = 403 ∧ (deletion.run "1" s).2 = s ∧
    ∃ v, (reading.run "1" s).1.content = .json v ∧ Tells v (.posts [changed]) := by
  intro written changed s
  have hlater : editing.now.Exists := ⟨by decide, by decide, by decide, by decide, by decide⟩
  have hclock : ∀ x ∈ [posting, editing], x.now.Exists := by
    simp only [List.forall_mem_cons]
    exact ⟨dayOne_exists, hlater, nofun⟩
  have hposting : posting.request.Asks (.create ⟨"Hello", none, false⟩) :=
    Request.asks_iff.2 ⟨rfl, by decide⟩
  have hediting : editing.request.Asks (.change 1 retitling) :=
    Request.asks_change_of_text (announcesJsonBody_iff.1 rfl) (by decide) rfl rfl
      (addresses_postUri 1)
  have hdeletion : deletion.request.Asks (.remove 1) := .remove rfl (addresses_postUri 1)
  have hreading : reading.request.Asks .list := Request.asks_iff.2 ⟨rfl, by decide⟩
  have hwriter : SentBy posting.request.headers (some (.user 1)) := names_iff.2 ⟨_, rfl, rfl, rfl⟩
  have heditor : SentBy editing.request.headers (some (.user 1)) := names_iff.2 ⟨_, rfl, rfl, rfl⟩
  have hother : SentBy deletion.request.headers (some (.user 2)) := names_iff.2 ⟨_, rfl, rfl, rfl⟩
  have hnobody : SentBy reading.request.headers none := callerOf_eq_none_iff.1 rfl
  -- each request in turn, on the posts that those before it have left
  have hwritten : (storeAfter "1" [posting]).posts = [(1, written)] := by
    obtain ⟨-, -, -, -, hnext⟩ := posts_served "1" [] nofun
    obtain ⟨-, hreply⟩ := hnext posting dayOne_exists
    exact (hreply _ _ hwriter hposting).2
  have hchanged : s.posts = [(1, changed)] := by
    obtain ⟨-, -, -, -, hnext⟩ := posts_served "1" [posting] fun x hx =>
      hclock x (List.mem_cons.2 (.inl (List.mem_singleton.1 hx)))
    obtain ⟨-, hreply⟩ := hnext editing hlater
    have hposts := (hreply _ _ heditor hediting).2
    rw [hwritten] at hposts
    exact hposts
  obtain ⟨-, -, -, -, hnext⟩ := posts_served "1" [posting, editing] hclock
  obtain ⟨hchange, hreply⟩ := hnext deletion dayOne_exists
  have hstatus := (hreply _ _ hother hdeletion).1.status
  rw [hchanged] at hstatus
  obtain ⟨-, hreply'⟩ := hnext reading dayOne_exists
  have hcontent := (hreply' _ _ hnobody hreading).1.content
  rw [hchanged] at hcontent
  have hkeep : (deletion.run "1" s).2 = s := by
    refine hchange.resolve_right fun h => ?_
    rw [hstatus] at h
    exact absurd h.2 (by decide)
  exact ⟨hclock, hposting, hediting, hdeletion, hreading, hchanged, hstatus, hkeep,
    hcontent _ rfl⟩

end RowGuard.Http
