import RowGuard.Proofs.Codec.Fields
import RowGuard.Proofs.Post.Requests
import RowGuard.Proofs.Rule.Compared

/-!
# A post is judged as its row

Rules and filters are put to posts and to the rows that posts are read from. A post has the fields
of its row but for one: a content that nobody supplied is missing from the row and null in the post
(`Post.field_eq`). This shows in comparisons of the content with null (`Predicate.TellsNull`), and
in nothing else that a filter or a rule set asks.

* `Post.tests_row`: the other comparisons come out alike
* `PostService.posts_judged_as_rows`: the rows of a store that any calls lead to
-/

set_option autoImplicit false

namespace RowGuard

/-- Null agrees with nothing but null. -/
theorem Json.agrees_null (v : Json) : null.agrees v = true ↔ v = null := by
  cases v with
  | null => simp [agrees, same]
  | bool _ | number _ | string _ | array _ | object _ => simp [agrees, same]

/-- **A comparison that tells null from nothing**: of the content with null. -/
def Predicate.TellsNull (t : Predicate) : Prop := t.field = "content" ∧ t.value = .null

namespace Post

variable (p : Post)

/-- The content of a row is there if somebody supplied it. -/
theorem content_row : Subject.field p.row "content" = p.content.map .string := by
  obtain ⟨id, title, content, published, author, created, updated⟩ := p
  cases content <;> rfl

/-- **A post has the fields of its row**, and always a content. -/
theorem field_eq (name : String) : Subject.field p name =
    if name = "content" then some (.ofString? p.content) else Subject.field p.row name := by
  have hrow : Subject.field p.row name = p.stored.get? name := rfl
  have hpost : Subject.field p name = p.field name := rfl
  rw [hrow, hpost, stored, List.cons_append, Keyed.get?, Keyed.get?_present_append]
  unfold field
  -- one case for each of the seven names, and one for any other
  split
  all_goals simp_all [Keyed.get?, authorField, createdField, idField, updatedField]

/-- The content is the only field in which a post and its row may differ. -/
theorem field_row_iff (name : String) :
    Subject.field p name = Subject.field p.row name ↔ ¬ (name = "content" ∧ p.content = none) := by
  rw [p.field_eq]
  by_cases hname : name = "content"
  · subst hname
    rw [if_pos rfl, p.content_row]
    cases p.content with
    | none => simp
    | some s => simp [Json.ofString?]
  · simp [hname]

/-- **A comparison comes out alike** on a post and its row, unless it tells null from nothing. -/
theorem test_row {t : Predicate} (h : p.content = none → ¬ t.TellsNull) :
    t.toFilter.admits p = t.toFilter.admits p.row := by
  obtain ⟨name, op, value⟩ := t
  show op.holds (Subject.field p name) value = op.holds (Subject.field p.row name) value
  by_cases hmissing : name = "content" ∧ p.content = none
  · obtain ⟨rfl, hnone⟩ := hmissing
    -- null in the post, nothing in the row, and neither agrees with any other value
    have hvalue : Json.null.agrees value = false := by
      rw [← Bool.not_eq_true, Json.agrees_null]
      exact fun hnull => h hnone ⟨rfl, hnull⟩
    rw [p.field_eq, if_pos rfl, p.content_row, hnone]
    cases op <;> simp [Comparison.holds, Json.ofString?, hvalue]
  · rw [(p.field_row_iff name).2 hmissing]

/-- A comparison that tells null from nothing comes out differently where nobody supplied a
content. -/
theorem test_row_ne (hnone : p.content = none) {t : Predicate} (h : t.TellsNull) :
    t.toFilter.admits p ≠ t.toFilter.admits p.row := by
  obtain ⟨name, op, value⟩ := t
  obtain ⟨rfl, rfl⟩ : name = "content" ∧ value = .null := h
  show op.holds (Subject.field p "content") .null ≠ op.holds (Subject.field p.row "content") .null
  have hnull : Json.null.agrees .null = true := (Json.agrees_null _).2 rfl
  rw [p.field_eq, if_pos rfl, p.content_row, hnone]
  cases op <;> simp [Comparison.holds, Json.ofString?, hnull]

/-- **Comparisons come out alike** on a post and its row, if the post has a content or none of them
tells null from nothing. -/
theorem tests_row {ts : List Predicate} (h : p.content = none → ∀ t ∈ ts, ¬ t.TellsNull) :
    ∀ t ∈ ts, t.toFilter.admits p = t.toFilter.admits p.row :=
  fun t ht => p.test_row fun hnone => h hnone t ht

end Post

/-- **Posts are judged as their rows**, as far as the rows have a content. Take any calls of the
post service, each put straight to the store or through the guard, from the store that never had a
row. Every row of a post is read as a post. The two have every field in common but for a content
that nobody supplied, which is null in the post and missing from the row. If there is a content, or
if it is not compared with null, then filters and rule sets do not tell the post from its row;
where there is none, any such comparison tells them apart. -/
theorem PostService.posts_judged_as_rows (past : List PostRequest)
    (hpast : ∀ v ∈ past, v.now.Exists) {id : Int64} {r : Record}
    (hrow : (Store.empty.afterCalls past).row .post id = some r) :
    ∃ p, Post.ofRecord r = .ok p ∧
      (∀ name, Subject.field p name = Subject.field r name ↔
        ¬ (name = "content" ∧ p.content = none)) ∧
      (p.content = none → Subject.field p "content" = some .null ∧
        Subject.field r "content" = none) ∧
      (∀ f : Filter, (p.content = none → ∀ t ∈ f.tests, ¬ t.TellsNull) →
        f.admits p = f.admits r) ∧
      (∀ rs : RuleSet, (p.content = none → ∀ t ∈ rs.tests, ¬ t.TellsNull) →
        (∀ action type, rs.resolve action type (some p) = rs.resolve action type (some r)) ∧
        ∀ action, rs.can action p = rs.can action r) ∧
      (p.content = none → ∀ t : Predicate, t.TellsNull →
        t.toFilter.admits p ≠ t.toFilter.admits r) := by
  obtain ⟨posts, h⟩ := Store.afterCalls_shows shows_empty past hpast
  rw [h.row_eq, Option.map_eq_some_iff] at hrow
  obtain ⟨p, hp, rfl⟩ := hrow
  obtain ⟨-, hdated⟩ := h.valid_of_get? hp
  refine ⟨p, Post.ofRecord_row hdated, p.field_row_iff, fun hnone => ⟨?_, ?_⟩,
    fun f hf => f.admits_congr (p.tests_row hf), fun rs hrs => ⟨?_, ?_⟩,
    fun hnone t ht => p.test_row_ne hnone ht⟩
  · rw [p.field_eq, if_pos rfl, hnone]
    rfl
  · rw [p.content_row, hnone]
    rfl
  · exact rs.resolve_congr (p.tests_row hrs)
  · exact rs.can_congr (p.tests_row hrs) rfl

/-- Somebody writes a post for user 1, without a content. -/
def PostRequest.writing : PostRequest :=
  ⟨.create ⟨"Hello", none, true⟩ 1, .raw, Store.dayOne⟩

/-- User 1 gives the post a content. -/
def PostRequest.filling : PostRequest :=
  ⟨.update 1 ⟨none, some "World", none⟩, .inContext (some (.forCaller (some (.user 1)))),
    Store.dayOne⟩

/-- Once the post has a content, no filter tells it from its row. -/
theorem PostService.post_with_content_judged_as_row :
    (∀ v ∈ [PostRequest.writing, .filling], v.now.Exists) ∧
      ∃ r p, (Store.empty.afterCalls [.writing, .filling]).row .post 1 = some r ∧
        Post.ofRecord r = .ok p ∧ p.content = some "World" ∧
        ∀ f : Filter, f.admits p = f.admits r := by
  have hclock : ∀ v ∈ [PostRequest.writing, .filling], v.now.Exists := by
    intro v hv
    have hnow : v.now = Store.dayOne := by
      simp only [List.mem_cons, List.not_mem_nil, or_false] at hv
      rcases hv with rfl | rfl <;> rfl
    rw [hnow]
    exact dayOne_exists
  have hrow : (Store.empty.afterCalls [.writing, .filling]).row .post 1 =
      some { greeting with content := some "World" }.row := rfl
  obtain ⟨p, hread, -, -, hfilters, -⟩ := PostService.posts_judged_as_rows _ hclock hrow
  have hstored : Post.ofRecord { greeting with content := some "World" }.row =
      .ok { greeting with content := some "World" } :=
    Post.ofRecord_row ⟨dayOne_exists, dayOne_exists⟩
  obtain rfl := Except.ok.inj (hstored.symm.trans hread)
  exact ⟨hclock, _, _, hrow, hread, rfl, fun f => hfilters f nofun⟩

/-- **A post without a content is not its row**: a filter on null passes the one and not the other,
and a rule with this condition allows the one to be read and not the other. -/
theorem PostService.post_without_content_told_apart :
    let rules : RuleSet := ⟨[.on .allow .read .post (.eq "content" .null)]⟩
    ∃ r p, (Store.empty.afterCalls [.writing]).row .post 1 = some r ∧ Post.ofRecord r = .ok p ∧
      Subject.field p "content" = some .null ∧ Subject.field r "content" = none ∧
      (Filter.eq "content" .null).admits p = true ∧ (Filter.eq "content" .null).admits r = false ∧
      rules.resolve .read .post (some p) = .allow ∧ rules.resolve .read .post (some r) = .deny ∧
      rules.can .read p = true ∧ rules.can .read r = false := by
  intro rules
  have hread : Post.ofRecord greeting.row = .ok greeting :=
    Post.ofRecord_row ⟨dayOne_exists, dayOne_exists⟩
  exact ⟨greeting.row, greeting, rfl, hread, rfl, rfl, rfl, rfl, rfl, rfl, rfl, rfl⟩

end RowGuard
