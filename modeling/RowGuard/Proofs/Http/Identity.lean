import RowGuard.Proofs.Http.Caller
import RowGuard.Proofs.Http.EndToEnd

/-!
# The rule set of a request

The rule set of a request is known from the headers that name its caller. Whatever is wrong with
them, the request has no more rights than an anonymous one, and it is not refused for it: it is
answered as if it had come without them.

* `Request.unnamed`: a request without the headers that name a caller
* `Exchange.rules_by_headers`: the rule set that a request runs under
-/

set_option autoImplicit false

namespace RowGuard.Http

/-! ## The rule set by the headers -/

section Rules

variable {headers : Headers}

/-- **Headers of an administrator.** -/
theorem rules_eq_administrator_iff :
    (RequestContext.forCaller (callerOf headers)).rules = .administrator ↔
      ∃ id, 0 < id ∧ Names headers id .admin := by
  rw [RequestContext.rules_eq_administrator_iff]
  constructor
  · rintro ⟨c, hc, hid, hrole⟩
    exact ⟨c.id, hid, names_iff.2 ⟨c, hc, rfl, hrole⟩⟩
  · rintro ⟨_, hid, hnames⟩
    obtain ⟨c, hc, rfl, hrole⟩ := names_iff.1 hnames
    exact ⟨c, hc, hid, hrole⟩

/-- **Headers of an owner.** -/
theorem rules_eq_owner_iff {id : Int64} :
    (RequestContext.forCaller (callerOf headers)).rules = .owner id ↔
      0 < id ∧ Names headers id .user := by
  rw [RequestContext.rules_eq_owner_iff, names_iff]

/-- Headers that name a caller without a proper id are denied all. -/
theorem rules_eq_denyAll_iff :
    (RequestContext.forCaller (callerOf headers)).rules = .denyAll ↔
      ∃ id role, id ≤ 0 ∧ Names headers id role := by
  rw [RequestContext.rules_eq_denyAll_iff]
  constructor
  · rintro ⟨c, hc, hid⟩
    exact ⟨c.id, c.role, hid, names_iff.2 ⟨c, hc, rfl, rfl⟩⟩
  · rintro ⟨_, _, hid, hnames⟩
    obtain ⟨c, hc, rfl, rfl⟩ := names_iff.1 hnames
    exact ⟨c, hc, hid⟩

/-- Headers that name nobody are anonymous. -/
theorem rules_eq_anonymous_iff :
    (RequestContext.forCaller (callerOf headers)).rules = .anonymous ↔
      ¬ ∃ id role, Names headers id role := by
  rw [RequestContext.rules_eq_anonymous_iff, callerOf_eq_none_iff]

/-- **No more than anonymous rights** without a positive identifier. -/
theorem anonymous_can_of_not_named (h : ¬ ∃ id role, 0 < id ∧ Names headers id role) {α : Type}
    [Subject α] {action : Action} {y : α}
    (hcan : (RequestContext.forCaller (callerOf headers)).rules.can action y = true) :
    RuleSet.anonymous.can action y = true := by
  -- what is left is a caller whose identifier is not positive, or none
  cases hc : callerOf headers with
  | none =>
    rw [hc] at hcan
    exact hcan
  | some c =>
    have hid : c.id ≤ 0 := Int64.not_lt.1 fun hpositive =>
      h ⟨c.id, c.role, hpositive, names_iff.2 ⟨c, hc, rfl, rfl⟩⟩
    rw [hc, RequestContext.rules_forCaller_refused hid] at hcan
    cases hcan

end Rules

/-! ## Requests without these headers -/

/-- The headers that name a caller. -/
def namingHeaders : List String := [userIdHeader, userRoleHeader, userEmailHeader]

/-- **A request without the headers that name a caller.** -/
def Request.unnamed (r : Request) : Request :=
  { r with headers := r.headers.filter fun header => header.1 ∉ namingHeaders }

/-- Other headers stay. -/
theorem firstValue?_unnamed {name : String} (h : name ∉ namingHeaders) (r : Request) :
    firstValue? name r.unnamed.headers = firstValue? name r.headers := by
  unfold firstValue? Request.unnamed
  rw [List.find?_filter]
  congr 2
  funext header
  by_cases hname : header.1 = name
  · simp [hname, h]
  · simp [hname]

theorem announcesJsonBody_unnamed (r : Request) :
    announcesJsonBody r.unnamed.headers = announcesJsonBody r.headers := by
  unfold announcesJsonBody
  rw [firstValue?_unnamed (by decide)]

theorem requestId?_unnamed (r : Request) :
    requestId? r.unnamed.headers = requestId? r.headers := by
  unfold requestId?
  rw [firstValue?_unnamed (by decide)]

/-- **The call of a request** does not depend on the headers that name a caller. -/
theorem call_unnamed (r : Request) : r.unnamed.call = r.call := by
  -- of the headers a form reads only the one that announces its body
  have hform : ∀ {α : Type} (read : String → Except BodyFault α),
      r.unnamed.form read = r.form read := by
    intro α read
    unfold Request.form
    rw [announcesJsonBody_unnamed]
    rfl
  have hon : ∀ resource, r.unnamed.callOn resource = r.callOn resource := by
    intro resource
    cases resource with
    | health => rfl
    | posts =>
      simp only [Request.callOn, hform]
      rfl
    | post text =>
      simp only [Request.callOn, hform]
      rfl
  unfold Request.call
  simp only [hon]
  rfl

theorem callerOf_unnamed (r : Request) : callerOf r.unnamed.headers = none := by
  have hnothing : Brings r.unnamed.headers userIdHeader none := by
    refine .nothing fun header hheader hname => ?_
    have hother := (List.mem_filter.1 hheader).2
    rw [hname] at hother
    exact absurd hother (by decide)
  unfold callerOf identify
  rw [headerText_eq_ok_iff.2 hnothing]
  rfl

namespace Exchange

/-- The request without the headers that name a caller, received alike. -/
def unnamed (x : Exchange) : Exchange := { x with request := x.request.unnamed }

/-- **A request that names nobody** is answered as it would be without these headers. -/
theorem run_unnamed (version : String) {x : Exchange} (h : callerOf x.request.headers = none)
    (s : Store) : x.unnamed.run version s = x.run version s := by
  have hcontext : (x.service version).contextOf x.request.unnamed.headers =
      (x.service version).contextOf x.request.headers := by
    rw [contextOf_eq, contextOf_eq, callerOf_unnamed, h]
  have hhandle : (x.service version).handle x.request.unnamed =
      (x.service version).handle x.request := by
    unfold Service.handle
    rw [call_unnamed, hcontext]
  have hfinish : Service.finish x.fresh x.request.unnamed = Service.finish x.fresh x.request := by
    funext response
    unfold Service.finish
    rw [requestId?_unnamed]
    rfl
  have hrespond : (x.service version).respond x.fresh x.request.unnamed =
      (x.service version).respond x.fresh x.request := by
    unfold Service.respond
    rw [hhandle, hfinish]
    rfl
  exact congrArg (fun d => d.run (Store.execute x.now) s) hrespond

/-- **The rule set that a request runs under**, by its headers. It is an administrator's or a user's
just if the headers name one whose identifier is positive, it denies everything just if they name a
caller of another identifier, and it is the anonymous one just if they name nobody. So no headers
but those that name a caller of a positive identifier give more than anonymous rights. And no
headers stop a request: they have no part in which call it makes, the call is carried out under
these rules, and if they name nobody the request is answered as if it had come without them. -/
theorem rules_by_headers (version : String) (x : Exchange) :
    let headers := x.request.headers
    let context := (x.service version).contextOf headers
    (context.rules = .administrator ↔ ∃ id, 0 < id ∧ Names headers id .admin) ∧
    (∀ id, context.rules = .owner id ↔ 0 < id ∧ Names headers id .user) ∧
    (context.rules = .denyAll ↔ ∃ id role, id ≤ 0 ∧ Names headers id role) ∧
    (context.rules = .anonymous ↔ ¬ ∃ id role, Names headers id role) ∧
    ((¬ ∃ id role, 0 < id ∧ Names headers id role) → ∀ (α : Type) [Subject α] (action : Action)
      (y : α), context.rules.can action y = true → RuleSet.anonymous.can action y = true) ∧
    x.unnamed.request.call = x.request.call ∧
    (∀ (s : Store) (call : Call), x.request.method ≠ "OPTIONS" → x.request.call = .ok call →
      let result := ((call.perform (x.service version) context.caller).inContext
        (some context)).run (Store.execute x.now) s
      x.run version s =
        (Service.finish x.fresh x.request (callResponse result.1), result.2)) ∧
    ((¬ ∃ id role, Names headers id role) → ∀ s, x.unnamed.run version s = x.run version s) := by
  intro headers context
  -- all that the context takes from the headers is the caller
  have hcontext : context = .forCaller (callerOf headers) := contextOf_eq version x headers
  have hcaller : context.caller = callerOf headers := by
    rw [hcontext, RequestContext.caller_forCaller]
  have hrights : (¬ ∃ id role, 0 < id ∧ Names headers id role) → ∀ (α : Type) [Subject α]
      (action : Action) (y : α), context.rules.can action y = true →
        RuleSet.anonymous.can action y = true := by
    intro hnobody α _ action y hcan
    rw [hcontext] at hcan
    exact anonymous_can_of_not_named hnobody hcan
  refine ⟨?_, ?_, ?_, ?_, hrights, call_unnamed x.request, ?_, ?_⟩
  · rw [hcontext]
    exact rules_eq_administrator_iff
  · intro id
    rw [hcontext]
    exact rules_eq_owner_iff
  · rw [hcontext]
    exact rules_eq_denyAll_iff
  · rw [hcontext]
    exact rules_eq_anonymous_iff
  · intro s call hm hcall
    rw [hcaller, hcontext]
    exact x.run_of_call version s hm hcall
  · intro hnobody
    exact run_unnamed version (callerOf_eq_none_iff.2 hnobody)

/-- A request for the posts, with headers. -/
def listing (headers : Headers) : Exchange := ⟨⟨"GET", "/posts", headers, ""⟩, Store.dayOne, "one", 1⟩

/-- Blanks, zeros and the case of letters do not count, and of two identifiers the first does. One
that does not fit a word names nobody. -/
theorem padded_administrator_recognized :
    let padded : Headers := [(userRoleHeader, headerBytes "	adMIN "),
      (userIdHeader, headerBytes " +0042	"), (userIdHeader, headerBytes "7")]
    let great : Headers := [(userIdHeader, headerBytes "9223372036854775808")]
    Names padded 42 .admin ∧ (¬ ∃ id role, Names great id role) ∧
      (((listing padded).service "1").contextOf padded).rules = .administrator ∧
      (((listing great).service "1").contextOf great).rules = .anonymous ∧
      ∀ s, (listing great).unnamed.run "1" s = (listing great).run "1" s := by
  intro padded great
  have hpadded : Names padded 42 .admin := names_iff.2 ⟨.admin 42, rfl, rfl, rfl⟩
  have hgreat : ¬ ∃ id role, Names great id role := callerOf_eq_none_iff.1 rfl
  obtain ⟨hadministrator, -⟩ := rules_by_headers "1" (listing padded)
  obtain ⟨-, -, -, hanonymous, -, -, -, hrun⟩ := rules_by_headers "1" (listing great)
  exact ⟨hpadded, hgreat, hadministrator.2 ⟨42, by decide, hpadded⟩, hanonymous.2 hgreat,
    hrun hgreat⟩

end Exchange

end RowGuard.Http
