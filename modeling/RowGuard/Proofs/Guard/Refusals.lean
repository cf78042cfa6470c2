import RowGuard.Proofs.Filter.Compared
import RowGuard.Proofs.Guard.ById

/-!
# What a refusal tells

A query about one record looks the record up by its own filter before any rule is asked. So on a
record that the caller may not touch the answer still depends on the filter: forbidden if the record
passes it, missing if not. Nothing but this one bit of the record is told, and nothing at all by a
query whose filter does not read the fields that are hidden.

* `Store.executeIn_denied`: the answer on a record that is denied
* `Store.refusals_agree_iff`: when two such records are answered alike
* `Store.refusal_tells_title`: a refusal that gives a hidden title away
-/

set_option autoImplicit false

namespace RowGuard

namespace Store

variable {s s' : Store} {q : Query} {id : Int64} (context : Option RequestContext) (now : Timestamp)

/-- **On a record that is denied** a query about it is answered by its own filter. -/
theorem executeIn_denied (hb : q.operation.isById = true) (hid : q.id = some id) {r : Record}
    (hrow : s.row q.model id = some r)
    (hdenied : (effectiveRules context).can q.operation.action r = false) :
    s.executeIn context now q =
      (.error (if q.filter.admits r then .forbidden else Guard.missing q.model id), s) := by
  by_cases hf : q.filter.admits r = true
  · rw [if_pos hf]
    exact executeIn_forbidden context now hb hid (Option.filter_eq_some_iff.2 ⟨hrow, hf⟩) hdenied
  · rw [if_neg hf]
    refine executeIn_missing context now hb hid ?_
    rw [hrow, Option.filter_some, if_neg hf]

/-- **When records that are denied are answered alike.** Take two stores, each with a record of its
own under the identifier of a query about one record, both denied to the caller. The answers are the
same exactly when the filter of the query tells the records apart no more than the rules do. In
particular they are the same when the records differ in no field that the filter reads. A record is
answered as forbidden when it passes the filter, and nothing is changed. -/
theorem refusals_agree_iff (hb : q.operation.isById = true) (hid : q.id = some id) {r r' : Record}
    (hrow : s.row q.model id = some r) (hrow' : s'.row q.model id = some r')
    (hdenied : (effectiveRules context).can q.operation.action r = false)
    (hdenied' : (effectiveRules context).can q.operation.action r' = false) :
    let answer := (s.executeIn context now q).1
    let answer' := (s'.executeIn context now q).1
    (answer = answer' ↔ q.filter.admits r = q.filter.admits r') ∧
    ((∀ name ∈ q.filter.compared, r.data.get? name = r'.data.get? name) → answer = answer') ∧
    (answer = .error .forbidden ↔ q.filter.admits r = true) ∧
    (s.executeIn context now q).2 = s := by
  intro answer answer'
  have hanswer : answer =
      .error (if q.filter.admits r then .forbidden else Guard.missing q.model id) :=
    congrArg Prod.fst (executeIn_denied context now hb hid hrow hdenied)
  have hanswer' : answer' =
      .error (if q.filter.admits r' then .forbidden else Guard.missing q.model id) :=
    congrArg Prod.fst (executeIn_denied context now hb hid hrow' hdenied')
  have hiff : answer = answer' ↔ q.filter.admits r = q.filter.admits r' := by
    rw [hanswer, hanswer']
    cases q.filter.admits r <;> cases q.filter.admits r' <;> simp [Guard.missing]
  refine ⟨hiff, fun hfields => ?_, ?_, ?_⟩
  · exact hiff.2 (q.filter.holds_congr hfields)
  · rw [hanswer]
    cases q.filter.admits r <;> simp [Guard.missing]
  · exact congrArg Prod.snd (executeIn_denied context now hb hid hrow hdenied)

/-- A store with one post, of user 2. -/
def postTitled (title : String) : Store :=
  (empty.execute dayOne (.create .post [(authorField, .int 2), ("title", .string title)])).2

theorem postTitled_reachable (title : String) : (postTitled title).Reachable := .execute _ _ .empty

/-- User 1 asks to delete post 1 if it has a field of a value. -/
def deletionIf (name : String) (value : Json) : Query :=
  { Query.delete .post 1 with filter := .eq name value }

/-- User 1 learns who wrote a post, but not its title, by asking for the author. -/
theorem title_kept_by_filter_on_author :
    let context := some (.forCaller (some (.user 1)))
    let deletion := deletionIf authorField (.int 2)
    ((postTitled "draft").executeIn context dayOne deletion).1 =
        ((postTitled "final").executeIn context dayOne deletion).1 ∧
      ((postTitled "draft").executeIn context dayOne deletion).1 = .error .forbidden := by
  intro context deletion
  obtain ⟨r, hrow, hdenied, hf⟩ : ∃ r, (postTitled "draft").row .post 1 = some r ∧
      (effectiveRules context).can .delete r = false ∧ deletion.filter.admits r = true :=
    ⟨_, rfl, rfl, rfl⟩
  obtain ⟨r', hrow', hdenied', hf'⟩ : ∃ r, (postTitled "final").row .post 1 = some r ∧
      (effectiveRules context).can .delete r = false ∧ deletion.filter.admits r = true :=
    ⟨_, rfl, rfl, rfl⟩
  obtain ⟨hiff, -, hforbidden, -⟩ := refusals_agree_iff (q := deletion) context dayOne rfl rfl
    hrow hrow' hdenied hdenied'
  exact ⟨hiff.2 (hf.trans hf'.symm), hforbidden.2 hf⟩

/-- **A refusal tells a hidden title.** Two stores are the same but for the title of the post of
user 2, which user 1 may not delete. Asking to delete it under a title is forbidden if it has the
title, and otherwise there is no such post. -/
theorem refusal_tells_title :
    let context := some (.forCaller (some (.user 1)))
    let deletion := deletionIf "title" (.string "draft")
    let s := postTitled "draft"
    let s' := postTitled "final"
    (s.Reachable ∧ s'.Reachable) ∧
    (∀ model id, (s.row model id).isSome = (s'.row model id).isSome) ∧
    (∀ model id, ¬ (model = .post ∧ id = 1) → s.row model id = s'.row model id) ∧
    (∃ r r', s.row .post 1 = some r ∧ s'.row .post 1 = some r' ∧
      (effectiveRules context).can .delete r = false ∧
      (effectiveRules context).can .delete r' = false) ∧
    (s.executeIn context dayOne deletion).1 = .error .forbidden ∧
    (s'.executeIn context dayOne deletion).1 = .error (.notFound "Post with id 1") := by
  intro context deletion s s'
  -- each store has the one row, under the one identifier
  have hrow : ∀ title model id, (postTitled title).row model id =
      if model = .post ∧ id = 1 then (postTitled title).row .post 1 else none := by
    intro title model id
    cases model with
    | post =>
      by_cases hid : id = 1
      · rw [if_pos ⟨rfl, hid⟩, hid]
      · rw [if_neg fun h => hid h.2]
        exact if_neg hid
    | all => rfl
    | user => rfl
  refine ⟨⟨postTitled_reachable _, postTitled_reachable _⟩, fun model id => ?_,
    fun model id h => ?_, ⟨_, _, rfl, rfl, rfl, rfl⟩, rfl, rfl⟩
  · rw [hrow "draft", hrow "final"]
    split <;> rfl
  · rw [hrow "draft", hrow "final", if_neg h, if_neg h]

end Store

end RowGuard
