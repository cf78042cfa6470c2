import Mathlib.Data.List.Forall2
import RowGuard.Http.Service
import RowGuard.Proofs.Json.Identifier
import RowGuard.Proofs.Post.Refinement
import RowGuard.Proofs.Rule.Policy

/-!
# What requests come to

What the service is to the sender of a request about posts: a status, an answer and what becomes of
the posts, by the caller who sends the request (`Call.reply`). Headers, bodies, rules, guard and
store do not come into it. An answer is told in JSON by the fields of each post in it (`Tells`).

* `RequestContext.can_edit`, `can_read`, `can_create`: what the rules of a caller say of a post
* `Response.Gives`: a response that gives a reply
* `Call.carried`: a call of the service is answered at once or is one call of the post service
-/

set_option autoImplicit false

namespace RowGuard

/-! ## What a caller may do to a post -/

/-- Whether a caller may edit a post: its author and administrators may. -/
def Caller.mayEdit (c : Caller) (p : Post) : Bool :=
  0 < c.id && (c.role == .admin || p.authorId == c.id)

/-- The filter of an author's posts. -/
theorem admits_author (id : Int64) (p : Post) :
    (Filter.eq authorField (.ofId id)).admits p.row = (p.authorId == id) := by
  have hfield : p.row.data.get? authorField = some (.ofId p.authorId) := rfl
  show Comparison.eq.holds (p.row.data.get? authorField) (.ofId id) = _
  rw [hfield, ← Json.agrees_ofId]
  rfl

namespace RequestContext

theorem caller_forCaller (caller : Option Caller) : (forCaller caller).caller = caller := by
  unfold forCaller
  split <;> rfl

/-- **Who may edit a post**, by updating or deleting it. -/
theorem can_edit {action : Action} (h : action = .update ∨ action = .delete)
    (caller : Option Caller) (p : Post) :
    (forCaller caller).rules.can action p.row = caller.any fun c => c.mayEdit p := by
  have hread : (action == .read) = false := by rcases h with rfl | rfl <;> rfl
  have hcreate : (action == .create) = false := by rcases h with rfl | rfl <;> rfl
  cases caller with
  | none =>
    have hrules : (forCaller none).rules = .anonymous := rfl
    rw [hrules, RuleSet.can_anonymous, hread, Option.any_none]
  | some c =>
    rw [Option.any_some, Caller.mayEdit]
    rcases rules_forCaller_cases c with ⟨hid, hrules⟩ | ⟨hid, hrole, hrules⟩ | ⟨hid, hrole, hrules⟩
    · rw [hrules, RuleSet.can_denyAll]
      simp [Int64.not_lt.2 hid]
    · rw [hrules, RuleSet.can_administrator]
      simp [hid, hrole]
    · have hpost : Subject.subjectType p.row = .post := rfl
      rw [hrules, RuleSet.can_owner, admits_author, hpost, hread, hcreate]
      simp [hid, hrole]

/-- **Who may read a post**: everybody but a caller that is refused. -/
theorem can_read (caller : Option Caller) (p : Post) :
    (forCaller caller).rules.can .read p.row = !caller.any fun c => c.id ≤ 0 := by
  cases caller with
  | none => rfl
  | some c =>
    rw [Option.any_some]
    rcases rules_forCaller_cases c with ⟨hid, hrules⟩ | ⟨hid, -, hrules⟩ | ⟨hid, -, hrules⟩
    · rw [hrules, RuleSet.can_denyAll]
      simp [hid]
    · rw [hrules, RuleSet.can_administrator]
      simp [Int64.not_le.2 hid]
    · rw [hrules, RuleSet.can_owner]
      simp [Int64.not_le.2 hid]

/-- **Who may create posts**: every caller that is not refused. -/
theorem can_create (c : Caller) (data : Fields) :
    (forCaller (some c)).rules.can .create (Draft.mk .post data) = !decide (c.id ≤ 0) := by
  rcases rules_forCaller_cases c with ⟨hid, hrules⟩ | ⟨hid, -, hrules⟩ | ⟨hid, -, hrules⟩
  · rw [hrules, RuleSet.can_denyAll]
    simp [hid]
  · rw [hrules, RuleSet.can_administrator]
    simp [Int64.not_le.2 hid]
  · have hpost : Subject.subjectType (Draft.mk .post data) = .post := rfl
    rw [hrules, RuleSet.can_owner, hpost]
    simp [Int64.not_le.2 hid]

end RequestContext

namespace Http

/-! ## Replies -/

/-- **Texts within the limits of a post**: a title of 1 to 200 characters and a content of at most
10000, where there are any. -/
def WithinLimits (title content : Option String) : Prop :=
  (∀ t ∈ title, 1 ≤ t.length ∧ t.length ≤ 200) ∧ ∀ t ∈ content, t.length ≤ 10000

instance (title content : Option String) : Decidable (WithinLimits title content) :=
  inferInstanceAs (Decidable (_ ∧ _))

/-- **What the sender of a request is told**, and what becomes of the posts. -/
structure Reply where
  status : Nat
  /-- What a request about posts is answered with if it succeeds. -/
  answer : Option PostAnswer
  posts : PostMap

namespace Reply

/-- A request that fails. -/
def failed (status : Nat) (posts : PostMap) : Reply := ⟨status, none, posts⟩

/-- A request about one post, which has to be there and which the caller has to be allowed. -/
def onPost (id : Int64) (posts : PostMap) (allowed : Post → Bool) (after : Post → Post × PostMap) :
    Reply :=
  match posts.get? id with
  | none => failed 404 posts
  | some p =>
    if allowed p then ⟨200, some (.post (after p).1), (after p).2⟩ else failed 403 posts

end Reply

/-- **What a call comes to** for a caller, on a map of posts in which `next` is the identifier for a
new one. A caller whose identifier is not positive is refused everything. -/
def Call.reply (caller : Option Caller) (now : Timestamp) (next : Int64) (posts : PostMap) :
    Call → Reply
  | .health => ⟨200, none, posts⟩
  | .create input =>
    if ¬ WithinLimits (some input.title) input.content then .failed 400 posts
    else
      match caller with
      | none => .failed 401 posts
      | some c =>
        if c.id ≤ 0 then .failed 403 posts
        else ⟨201, some (.post (input.post next c.id now)),
          posts.insert next (input.post next c.id now)⟩
  | .list =>
    ⟨200, some (.posts (if caller.any fun c => c.id ≤ 0 then [] else posts.map Prod.snd)), posts⟩
  | .fetch id => .onPost id posts (fun _ => !caller.any fun c => c.id ≤ 0) fun p => (p, posts)
  | .change id changes =>
    if ¬ WithinLimits changes.title changes.content then .failed 400 posts
    else .onPost id posts (fun p => caller.any fun c => c.mayEdit p) fun p =>
      (changes.applied now p, posts.insert id (changes.applied now p))
  | .remove id =>
    .onPost id posts (fun p => caller.any fun c => c.mayEdit p) fun p => (p, posts.erase id)

/-- **Who sends a request** counts by identifier and role only. -/
theorem Call.reply_congr {caller caller' : Option Caller}
    (h : caller.map (fun c => (c.id, c.role)) = caller'.map fun c => (c.id, c.role))
    (now : Timestamp) (next : Int64) (posts : PostMap) (call : Call) :
    call.reply caller now next posts = call.reply caller' now next posts := by
  cases caller with
  | none =>
    cases caller' with
    | none => rfl
    | some c' => cases h
  | some c =>
    cases caller' with
    | none => cases h
    | some c' =>
      obtain ⟨hid, hrole⟩ := Prod.mk.inj (Option.some.inj h)
      have hedit : ∀ p, c.mayEdit p = c'.mayEdit p := by
        intro p
        rw [Caller.mayEdit, Caller.mayEdit, hid, hrole]
      cases call <;> simp only [reply, Option.any_some, hid, hedit]

/-! ## Answers in JSON -/

/-- **A value tells a post**: the fields of an object are those of the post, in order of their
names, and the texts of its dates read as these dates. -/
inductive TellsPost : Json → Post → Prop
  | mk {p : Post} {content : Json} {created updated : String}
      (hcontent : content = .null ∧ p.content = none ∨
        ∃ text, content = .string text ∧ p.content = some text)
      (hcreated : Timestamp.parse created = .ok p.createdAt)
      (hupdated : Timestamp.parse updated = .ok p.updatedAt) :
      TellsPost (.object [("authorId", .int p.authorId.toInt), ("content", content),
        ("createdAt", .string created), ("id", .int p.id.toInt), ("published", .bool p.published),
        ("title", .string p.title), ("updatedAt", .string updated)]) p

/-- **A value tells an answer**: a post, posts in the same order and how many there are, or a
number. -/
inductive Tells : Json → PostAnswer → Prop
  | post {v : Json} {p : Post} (h : TellsPost v p) : Tells v (.post p)
  | posts {elems : List Json} {ps : List Post} (h : List.Forall₂ TellsPost elems ps) :
      Tells (.object [("posts", .array elems), ("total", .int ps.length)]) (.posts ps)
  | count (n : Nat) : Tells (.int n) (.count n)

/-- A post in JSON tells the post. -/
theorem tellsPost_toJson {p : Post} (h : p.Dated) : TellsPost p.toJson p := by
  have hcontent : Json.ofString? p.content = .null ∧ p.content = none ∨
      ∃ text, Json.ofString? p.content = .string text ∧ p.content = some text := by
    cases p.content with
    | none => exact .inl ⟨rfl, rfl⟩
    | some text => exact .inr ⟨text, rfl, rfl⟩
  exact .mk hcontent (Timestamp.parse_publicText h.created) (Timestamp.parse_publicText h.updated)

/-- **A response gives a reply**: its status, and the answer in JSON. -/
structure Response.Gives (response : Response) (reply : Reply) : Prop where
  status : response.status = reply.status
  content : ∀ answer, reply.answer = some answer →
    ∃ v, response.content = .json v ∧ Tells v answer

/-! ## A call as one call of the post service -/

/-- What an answer of the post service is sent as. -/
def contentOf : PostAnswer → Json
  | .post p => p.toJson
  | .posts ps => postsJson ps
  | .count n => .int n

/-- The result of a call that is one call of the post service. -/
def tell (status : Nat) : Result PostAnswer → CallResult := answered status contentOf

/-- What an answer is sent as tells the answer. -/
theorem tells_contentOf {answer : PostAnswer} (h : answer.Dated) :
    Tells (contentOf answer) answer := by
  cases answer with
  | post p => exact .post (tellsPost_toJson h)
  | posts ps =>
    refine .posts (List.forall₂_map_left_iff.2 (List.forall₂_same.2 fun p hp => ?_))
    exact tellsPost_toJson (h p hp)
  | count n => exact .count n

/-- The reply to such a call. -/
def told (status : Nat) : Result PostAnswer × PostMap → Reply
  | (.ok answer, posts) => ⟨status, some answer, posts⟩
  | (.error e, posts) => .failed (Failure.data e).status posts

theorem told_posts (status : Nat) (served : Result PostAnswer × PostMap) :
    (told status served).posts = served.2 := by
  obtain ⟨answer, posts⟩ := served
  cases answer <;> rfl

theorem gives_told (status : Nat) {answer : Result PostAnswer}
    (h : ∀ a, answer = .ok a → a.Dated) (posts : PostMap) :
    (callResponse (tell status answer)).Gives (told status (answer, posts)) := by
  cases answer with
  | ok a =>
    refine ⟨rfl, fun answer hanswer => ⟨contentOf a, rfl, ?_⟩⟩
    rw [← Option.some.inj hanswer]
    exact tells_contentOf (h a rfl)
  | error e => exact ⟨rfl, nofun⟩

theorem told_onPost (rules : RuleSet) (action : Action) (id : Int64) (posts : PostMap)
    (after : Post → Post × PostMap) : told 200 (posts.onPost rules action id after) =
      .onPost id posts (fun p => rules.can action p.row) after := by
  unfold PostMap.onPost Reply.onPost
  cases posts.get? id with
  | none => rfl
  | some p =>
    dsimp only
    by_cases hcan : rules.can action p.row = true
    · rw [if_pos hcan, if_pos hcan]
      rfl
    · rw [if_neg hcan, if_neg hcan]
      rfl

/-- A failure is answered with its status. -/
theorem gives_failed (f : Failure) (posts : PostMap) :
    (callResponse (.error f)).Gives (.failed f.status posts) := ⟨rfl, nofun⟩

theorem check_eq_nil_iff (b : LengthBounds) (field : String) (text : Option String) :
    b.check field text = [] ↔ ∀ t ∈ text, b.admits t.length = true := by
  cases text with
  | none => simp [LengthBounds.check]
  | some t =>
    unfold LengthBounds.check
    by_cases ht : b.admits t.length = true <;> simp [ht]

/-- **Nothing is out of bounds** in texts within the limits. -/
theorem violations_eq_nil_iff (title content : Option String) :
    textViolations title content = [] ↔ WithinLimits title content := by
  have hcontent : ∀ n, contentBounds.admits n = true ↔ n ≤ 10000 := by
    intro n
    show (true && decide (n ≤ 10000)) = true ↔ _
    rw [Bool.true_and, decide_eq_true_iff]
  have htitle : ∀ n, titleBounds.admits n = true ↔ 1 ≤ n ∧ n ≤ 200 := by
    intro n
    show (decide (1 ≤ n) && decide (n ≤ 200)) = true ↔ _
    rw [Bool.and_eq_true, decide_eq_true_iff, decide_eq_true_iff]
  unfold textViolations WithinLimits
  simp only [List.append_eq_nil_iff, check_eq_nil_iff, hcontent, htitle, and_comm]

/-- **Everything that carrying out a call can come to**: the reply is there at once, or the call is
one call of the post service. -/
inductive Call.Carried (svc : Service) (caller : Option Caller) (call : Call) : Prop
  | atOnce {result : CallResult} (hdo : call.perform svc caller = .done result)
      (hreply : ∀ now next posts, (callResponse result).Gives (call.reply caller now next posts) ∧
        (call.reply caller now next posts).posts = posts)
  | served {c : PostCall} {status : Nat} (hstatus : 200 ≤ status ∧ status < 300)
      (hdo : call.perform svc caller = c.dialogue.map (tell status))
      (hreply : ∀ now next posts, call.reply caller now next posts =
        told status (c.serve (RequestContext.forCaller caller).rules now next posts))

/-- An answer of the post service is sent as what it is about. -/
theorem map_answered {α : Type} (status : Nat) (encode : α → Json) (wrap : α → PostAnswer)
    (h : ∀ a, contentOf (wrap a) = encode a) (d : Dialogue (Result α)) :
    d.map (answered status encode) = (d.map (Except.map wrap)).map (tell status) := by
  have hanswered : ∀ r : Result α, answered status encode r = tell status (r.map wrap) := by
    intro r
    cases r with
    | ok a => exact congrArg (fun v => Except.ok (status, v)) (h a).symm
    | error e => rfl
  rw [Dialogue.map_map, funext hanswered]

/-- A caller lists every post, or none if it is refused. -/
theorem selected_all (caller : Option Caller) (posts : PostMap) :
    posts.selected (RequestContext.forCaller caller).rules .read .pass =
      if caller.any fun c => c.id ≤ 0 then [] else posts.map Prod.snd := by
  have hselects : PostMap.selects (RequestContext.forCaller caller).rules .read .pass =
      fun _ => !caller.any fun c => c.id ≤ 0 :=
    funext fun p => RequestContext.can_read caller p
  unfold PostMap.selected
  rw [hselects]
  cases caller.any fun c => c.id ≤ 0 <;> simp

theorem Call.carried (svc : Service) (caller : Option Caller) (call : Call) :
    call.Carried svc caller := by
  have hok : 200 ≤ 200 ∧ 200 < 300 := by decide
  have hcreated : 200 ≤ 201 ∧ 201 < 300 := by decide
  cases call with
  | health => exact .atOnce rfl fun _ _ _ => ⟨⟨rfl, nofun⟩, rfl⟩
  | create input =>
    -- what exceeds the limits is refused before anyone asks who sent it
    by_cases hlimits : WithinLimits (some input.title) input.content
    · have hnone : ¬ input.violations ≠ [] := not_not.2 ((violations_eq_nil_iff ..).2 hlimits)
      cases caller with
      | none =>
        refine .atOnce (if_neg hnone) fun now next posts => ?_
        rw [Call.reply, if_neg (not_not.2 hlimits)]
        exact ⟨gives_failed _ posts, rfl⟩
      | some c =>
        refine .served (c := .create input c.id) hcreated ((if_neg hnone).trans
          (map_answered 201 Post.toJson .post (fun _ => rfl) _)) fun now next posts => ?_
        rw [Call.reply, if_neg (not_not.2 hlimits), PostCall.serve, RequestContext.can_create]
        by_cases hid : c.id ≤ 0 <;> simp [hid] <;> rfl
    · have hsome : input.violations ≠ [] := fun h => hlimits ((violations_eq_nil_iff ..).1 h)
      refine .atOnce (if_pos hsome) fun now next posts => ?_
      rw [Call.reply.eq_def]
      dsimp only
      rw [if_pos hlimits]
      exact ⟨gives_failed _ posts, rfl⟩
  | list =>
    refine .served (c := .findAll) hok
      (map_answered 200 postsJson .posts (fun _ => rfl) _) fun now next posts => ?_
    rw [PostCall.serve, selected_all]
    rfl
  | fetch id =>
    refine .served (c := .findOne id) hok
      (map_answered 200 Post.toJson .post (fun _ => rfl) _) fun now next posts => ?_
    rw [PostCall.serve, told_onPost, Call.reply]
    exact congrArg (Reply.onPost id posts · _)
      (funext fun p => (RequestContext.can_read caller p).symm)
  | change id changes =>
    by_cases hlimits : WithinLimits changes.title changes.content
    · have hnone : ¬ changes.violations ≠ [] := not_not.2 ((violations_eq_nil_iff ..).2 hlimits)
      refine .served (c := .update id changes) hok ((if_neg hnone).trans
        (map_answered 200 Post.toJson .post (fun _ => rfl) _)) fun now next posts => ?_
      rw [PostCall.serve, told_onPost, Call.reply, if_neg (not_not.2 hlimits)]
      exact congrArg (Reply.onPost id posts · _)
        (funext fun p => (RequestContext.can_edit (.inl rfl) caller p).symm)
    · have hsome : changes.violations ≠ [] := fun h => hlimits ((violations_eq_nil_iff ..).1 h)
      refine .atOnce (if_pos hsome) fun now next posts => ?_
      rw [Call.reply, if_pos hlimits]
      exact ⟨gives_failed _ posts, rfl⟩
  | remove id =>
    refine .served (c := .remove id) hok
      (map_answered 200 Post.toJson .post (fun _ => rfl) _) fun now next posts => ?_
    rw [PostCall.serve, told_onPost, Call.reply]
    exact congrArg (Reply.onPost id posts · _)
      (funext fun p => (RequestContext.can_edit (.inr rfl) caller p).symm)

end Http

end RowGuard
