import RowGuard.Proofs.Http.Address
import RowGuard.Proofs.Http.Body
import RowGuard.Proofs.Http.MediaType

/-!
# Requests that ask for a call

A request asks for a call of the service by its method, its address and, if the call writes a post,
its body (`Request.Asks`). The calls that requests make are those that they ask for, and headers
alone are sent for a request that does not say which.

* `Request.Carries`: a request with a body for a call
* `Request.asks_iff`: the call of a request
-/

set_option autoImplicit false

namespace RowGuard.Http

/-! ## Bodies -/

/-- **A request carries fields**: its body is announced as JSON, has two mebibytes at most and holds
the fields. -/
structure Request.Carries (r : Request) (holds : List (String × Held) → Prop) : Prop where
  announced : ∃ text, Brings r.headers "content-type" (some text) ∧ JsonType text
  size : r.body.utf8ByteSize ≤ 2 * 1024 * 1024
  fields : ∃ ms, BodyAt r.body.toList ms ∧ holds ms

/-- **What a request carries** is what is read from its body. -/
theorem form_eq_ok_iff {α : Type} {read : String → Except BodyFault α}
    {holds : List (String × Held) → α → Prop}
    (hread : ∀ {body a}, read body = .ok a ↔ ∃ ms, BodyAt body.toList ms ∧ holds ms a)
    {r : Request} {a : α} : r.form read = .ok a ↔ r.Carries (holds · a) := by
  unfold Request.form
  constructor
  · intro h
    split at h
    · cases h
    rename_i hannounced
    split at h
    · cases h
    rename_i hsize
    split at h
    · rename_i hok
      cases h
      exact ⟨announcesJsonBody_iff.1 (by simpa using hannounced), Nat.le_of_not_lt hsize,
        hread.1 hok⟩
    · cases h
  · rintro ⟨hannounced, hsize, hfields⟩
    have hlarge : ¬ maxBodySize < r.body.utf8ByteSize := Nat.not_lt.2 hsize
    rw [announcesJsonBody_iff.2 hannounced, if_neg hlarge, hread.2 hfields]
    rfl

/-! ## Calls -/

/-- **The call that a request asks for**, by its method, its address and its body. -/
inductive Request.Asks (r : Request) : Call → Prop
  | health (hm : r.method = "GET") (hu : PathOf r.uri.toList "/health".toList) : Asks r .health
  | create {input : NewPost} (hm : r.method = "POST") (hu : PathOf r.uri.toList "/posts".toList)
      (hbody : r.Carries (HoldsNewPost · input)) : Asks r (.create input)
  | list (hm : r.method = "GET") (hu : PathOf r.uri.toList "/posts".toList) : Asks r .list
  | fetch {id : Int64} (hm : r.method = "GET") (hu : Addresses r.uri id) : Asks r (.fetch id)
  | change {id : Int64} {changes : PostChanges} (hm : r.method = "PATCH") (hu : Addresses r.uri id)
      (hbody : r.Carries (HoldsChanges · changes)) : Asks r (.change id changes)
  | remove {id : Int64} (hm : r.method = "DELETE") (hu : Addresses r.uri id) : Asks r (.remove id)

namespace Request

variable {r : Request}

/-- The call of a request at a resource, if this has the method. -/
theorem call_on {resource : Resource} (hu : Resource.ofUri? r.uri = some resource) :
    r.call = if resource.methods.contains r.method then r.callOn resource
      else .error (.noMethod resource.allowed) := by
  unfold Request.call
  rw [hu]

/-- **The call that a request asks for** is made. -/
theorem Asks.call_eq {call : Call} (h : r.Asks call) : r.call = .ok call := by
  cases h with
  | health hm hu =>
    rw [call_on (ofUri?_eq_some_iff.2 ⟨_, hu, .health⟩), hm]
    rfl
  | create hm hu hbody =>
    rw [call_on (ofUri?_eq_some_iff.2 ⟨_, hu, .posts⟩), callOn, hm,
      (form_eq_ok_iff newPostOf_eq_ok_iff).2 hbody]
    rfl
  | list hm hu =>
    rw [call_on (ofUri?_eq_some_iff.2 ⟨_, hu, .posts⟩), callOn, hm]
    rfl
  | fetch hm hu =>
    obtain ⟨text, htext, hid⟩ := addresses_iff.1 hu
    rw [call_on htext, callOn, hm, idOrReject, hid]
    rfl
  | change hm hu hbody =>
    obtain ⟨text, htext, hid⟩ := addresses_iff.1 hu
    rw [call_on htext, callOn, hm, idOrReject, hid,
      (form_eq_ok_iff postChangesOf_eq_ok_iff).2 hbody]
    rfl
  | remove hm hu =>
    obtain ⟨text, htext, hid⟩ := addresses_iff.1 hu
    rw [call_on htext, callOn, hm, idOrReject, hid]
    rfl

theorem Asks.ne_head {call : Call} (h : r.Asks call) :
    r.method ≠ "HEAD" ∧ r.method ≠ "OPTIONS" := by
  cases h with
  | health hm hu | list hm hu | fetch hm hu | remove hm hu => rw [hm]; decide
  | create hm hu hbody | change hm hu hbody => rw [hm]; decide

/-- A call that is made at the address of a post is asked for. -/
theorem asks_of_callOn_post {text : List Char}
    (hu : Resource.ofUri? r.uri = some (.post text))
    (hm : r.method = "GET" ∨ r.method = "PATCH" ∨ r.method = "DELETE") {call : Call}
    (h : r.callOn (.post text) = .ok call) : r.Asks call := by
  obtain ⟨id, hid, h⟩ := bind_eq_ok_iff.1 h
  have haddress : Addresses r.uri id := by
    refine addresses_iff.2 ⟨text, hu, ?_⟩
    unfold idOrReject at hid
    split at hid
    · rename_i hpathId
      cases hid
      exact hpathId
    · cases hid
  rcases hm with hm | hm | hm
  · rw [if_neg (by rw [hm]; decide), if_neg (by rw [hm]; decide)] at h
    cases h
    exact .fetch hm haddress
  · rw [if_pos hm] at h
    obtain ⟨changes, hchanges, h⟩ := bind_eq_ok_iff.1 h
    cases h
    exact .change hm haddress ((form_eq_ok_iff postChangesOf_eq_ok_iff).1 hchanges)
  · rw [if_neg (by rw [hm]; decide), if_pos hm] at h
    cases h
    exact .remove hm haddress

/-- A call that is made at a resource is asked for, unless only the head is wanted. -/
theorem asks_of_callOn {resource : Resource} (hu : Resource.ofUri? r.uri = some resource)
    (hmethod : r.method ∈ resource.methods) (hhead : r.method ≠ "HEAD") {call : Call}
    (h : r.callOn resource = .ok call) : r.Asks call := by
  obtain ⟨path, hpath, hleads⟩ := ofUri?_eq_some_iff.1 hu
  cases hleads with
  | health =>
    have hm : r.method = "GET" := by simpa [Resource.methods, hhead] using hmethod
    cases h
    exact .health hm hpath
  | posts =>
    have hm : r.method = "POST" ∨ r.method = "GET" := by
      simpa [Resource.methods, hhead] using hmethod
    unfold callOn at h
    rcases hm with hm | hm
    · rw [if_pos hm] at h
      obtain ⟨input, hinput, rfl⟩ := map_eq_ok_iff.1 h
      exact .create hm hpath ((form_eq_ok_iff newPostOf_eq_ok_iff).1 hinput)
    · rw [if_neg (by rw [hm]; decide)] at h
      cases h
      exact .list hm hpath
  | post =>
    have hm : r.method = "GET" ∨ r.method = "PATCH" ∨ r.method = "DELETE" := by
      simpa [Resource.methods, hhead] using hmethod
    exact asks_of_callOn_post hu hm h

/-- **The call of a request** is the one that it asks for. -/
theorem asks_iff {call : Call} : r.Asks call ↔ r.call = .ok call ∧ r.method ≠ "HEAD" := by
  constructor
  · intro h
    exact ⟨h.call_eq, h.ne_head.1⟩
  · rintro ⟨hcall, hhead⟩
    cases hresource : Resource.ofUri? r.uri with
    | none =>
      unfold Request.call at hcall
      rw [hresource] at hcall
      cases hcall
    | some resource =>
      rw [call_on hresource] at hcall
      split at hcall
      · rename_i hmethod
        exact asks_of_callOn hresource (List.contains_iff_mem.1 hmethod) hhead hcall
      · cases hcall

/-! ## Written bodies -/

section Written

variable (hannounced : ∃ text, Brings r.headers "content-type" (some text) ∧ JsonType text)
  (hsize : r.body.utf8ByteSize ≤ 2 * 1024 * 1024)

include hannounced hsize

/-- **The text of a new post** asks for this post. -/
theorem asks_create_of_text {input : NewPost} (hbody : r.body = input.toJson.text)
    (hm : r.method = "POST") (hu : PathOf r.uri.toList "/posts".toList) :
    r.Asks (.create input) := by
  have hread := newPostOf_eq_ok_iff.1 (newPostOf_text input)
  rw [← hbody] at hread
  exact .create hm hu ⟨hannounced, hsize, hread⟩

/-- **The text of changes** asks for these changes. -/
theorem asks_change_of_text {changes : PostChanges} (hbody : r.body = changes.toJson.text)
    (hm : r.method = "PATCH") {id : Int64} (hu : Addresses r.uri id) :
    r.Asks (.change id changes) := by
  have hread := postChangesOf_eq_ok_iff.1 (postChangesOf_text changes)
  rw [← hbody] at hread
  exact .change hm hu ⟨hannounced, hsize, hread⟩

end Written

end Request

end RowGuard.Http
