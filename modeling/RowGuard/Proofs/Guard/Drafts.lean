import RowGuard.Proofs.Rule.Compared
import RowGuard.Proofs.Store.Representation

/-!
# Drafts and the rows made of them

A creation is judged by the fields supplied for it, before there is a row. The store then assigns an
identifier and stamps the row, whatever was supplied under these names. So the row that comes of a
permitted draft need not be one that the rules allow to create. But it differs from the draft in
the assigned fields only, and the rules judge both alike unless one of them compares such a field.

* `Assigned`: the fields that are the store's to write
* `Store.stored_as_drafted`: what comes of a creation, and when the row is permitted too
-/

set_option autoImplicit false

namespace RowGuard

/-- **The fields that the store writes** into a row made of a draft. A time of creation is written
only if the draft has none. -/
inductive Assigned (data : Fields) : String → Prop
  | id : Assigned data idField
  | updated : Assigned data updatedField
  | created (h : data.get? createdField = none) : Assigned data createdField

theorem assigned_iff (data : Fields) (name : String) : Assigned data name ↔
    name = idField ∨ name = updatedField ∨ name = createdField ∧ data.get? createdField = none := by
  constructor
  · rintro (_ | _ | hnone)
    · exact .inl rfl
    · exact .inr (.inl rfl)
    · exact .inr (.inr ⟨rfl, hnone⟩)
  · rintro (rfl | rfl | ⟨rfl, hnone⟩)
    · exact .id
    · exact .updated
    · exact .created hnone

instance (data : Fields) (name : String) : Decidable (Assigned data name) :=
  decidable_of_iff _ (assigned_iff data name).symm

/-- **Every other field is stored** as it was supplied, also if it was not. -/
theorem get?_new_of_not_assigned (now : Timestamp) (model : SubjectType) (id : Int64)
    {data : Fields} {name : String} (h : ¬ Assigned data name) :
    (Record.new model id (prepareInsert now data)).data.get? name = data.get? name := by
  rw [assigned_iff, not_or, not_or, not_and] at h
  obtain ⟨hid, hupdated, hcreated⟩ := h
  unfold Record.new
  rw [Keyed.get?_insert, if_neg (show name ≠ "id" from hid), get?_prepareInsert, if_neg hupdated]
  by_cases hname : name = createdField
  · subst hname
    obtain ⟨created, hd⟩ := Option.ne_none_iff_exists'.1 (hcreated rfl)
    rw [if_pos rfl, hd]
    rfl
  · rw [if_neg hname, if_neg hid]

/-- **The rules judge the row as the draft**, unless a comparison of an assigned field tells them
apart. -/
theorem RuleSet.can_create_new (rules : RuleSet) (now : Timestamp) (model : SubjectType)
    (id : Int64) {data : Fields}
    (h : ∀ t ∈ (rules.about .create model).tests, Assigned data t.field →
      t.toFilter.admits (Record.new model id (prepareInsert now data)) =
        t.toFilter.admits (Draft.mk model data)) :
    rules.can .create (Record.new model id (prepareInsert now data)) =
      rules.can .create (Draft.mk model data) := by
  refine rules.can_congr_about .create model rfl rfl fun t ht => ?_
  by_cases hassigned : Assigned data t.field
  · exact h t ht hassigned
  · show t.op.holds _ t.value = t.op.holds _ t.value
    exact congrArg (t.op.holds · t.value) (get?_new_of_not_assigned now model id hassigned)

namespace Store

variable (context : Option RequestContext) (now : Timestamp) (s : Store) {q : Query}

/-- **What is stored is what was drafted.** A creation through the guard succeeds just if fields are
supplied that the rules allow to create a row with. The row that it answers with is then stored
under its identifier, and has the supplied fields but for those that the store assigns. And the
rules allow to create this very row if their comparisons of assigned fields, in rules about creating
its type, come out on it as they do on the draft. -/
theorem stored_as_drafted (hop : q.operation = .create) :
    let rules := effectiveRules context
    let answer := (s.executeIn context now q).1
    let s' := (s.executeIn context now q).2
    ((∃ output, answer = .ok output) ↔
      ∃ data, q.data = some data ∧ rules.can .create (Draft.mk q.model data) = true) ∧
    ∀ output, answer = .ok output → ∃ (data : Fields) (row : Record),
      q.data = some data ∧ rules.can .create (Draft.mk q.model data) = true ∧
      output = .record (some row) ∧ row.model = q.model ∧ s'.row q.model row.id = some row ∧
      (∀ name, ¬ Assigned data name → row.data.get? name = data.get? name) ∧
      ((∀ t ∈ (rules.about .create q.model).tests, Assigned data t.field →
          t.toFilter.admits row = t.toFilter.admits (Draft.mk q.model data)) →
        rules.can .create row = true) := by
  intro rules answer s'
  rcases Option.eq_none_or_eq_some q.data with hd | ⟨data, hd⟩
  · have hanswer : answer = .error _ := congrArg Prod.fst (executeIn_without_data context now hop hd)
    rw [hanswer, hd]
    exact ⟨⟨nofun, nofun⟩, nofun⟩
  have hrun := executeIn_draft (s := s) context now hop hd
  cases hcan : rules.can .create (Draft.mk q.model data) with
  | false =>
    rw [if_neg (Bool.eq_false_iff.1 hcan)] at hrun
    have hanswer : answer = .error .forbidden := congrArg Prod.fst hrun
    rw [hanswer]
    refine ⟨⟨nofun, ?_⟩, nofun⟩
    rintro ⟨data', hd', hcan'⟩
    cases hd.symm.trans hd'
    rw [hcan] at hcan'
    cases hcan'
  | true =>
    rw [if_pos hcan] at hrun
    have hanswer : answer = .ok (.record (some
        (.new q.model ((s.table q.model).lastId + 1) (prepareInsert now data)))) := by
      rw [← s.answer_drafted now hop hd, ← hrun]
    refine ⟨⟨fun _ => ⟨data, hd, hcan⟩, fun _ => ⟨_, hanswer⟩⟩, fun output hok => ?_⟩
    rw [hanswer, Except.ok.injEq] at hok
    refine ⟨data, _, hd, hcan, hok.symm, rfl, ?_,
      fun name h => get?_new_of_not_assigned now _ _ h, fun htests => ?_⟩
    -- the new identifier is the next one, so the row is found under it
    · show (s.executeIn context now q).2.row _ _ = _
      rw [hrun, s.row_execute_create now hop hd]
      exact if_pos rfl
    · rw [rules.can_create_new now _ _ htests]
      exact hcan

/-- User 3 makes a post, supplying an identifier and a time of creation too. The post is stored with
the user as its author and with that time, and the user may create it as it is stored. -/
theorem own_post_stored_as_drafted :
    let context := some (RequestContext.forCaller (some (.user 3)))
    let data : Fields := [(authorField, .int 3), (createdField, .string "2001"), (idField, .int 7)]
    ∃ row : Record, (twoPosts.executeIn context dayOne (.create .post data)).1 =
        .ok (.record (some row)) ∧
      row.data.get? authorField = some (.int 3) ∧
      row.data.get? createdField = some (.string "2001") ∧
      (effectiveRules context).can .create row = true := by
  intro context data
  obtain ⟨hsuccess, hstored⟩ :=
    stored_as_drafted context dayOne twoPosts (q := .create .post data) rfl
  obtain ⟨output, hok⟩ := hsuccess.2 ⟨data, rfl, by decide⟩
  obtain ⟨_, row, ⟨⟩, -, rfl, -, -, hfields, hcan⟩ := hstored output hok
  have hauthor : ¬ Assigned data authorField := by decide
  refine ⟨row, hok, hfields _ hauthor, hfields createdField (by decide), hcan ?_⟩
  -- the only comparison is that of the author
  rintro t (_ | ⟨_, ⟨⟩⟩) hassigned
  exact absurd hassigned hauthor

/-- **A permitted draft and a row that is not.** A rule allows to create the post with identifier 5.
A draft with this identifier passes, but the post made of it is the first one of the store, and the
rule does not allow to create that one. -/
theorem stored_under_another_identifier :
    let rules : RuleSet := ⟨[.on .allow .create .post (.eq idField (.int 5))]⟩
    let creation := Query.create .post [(idField, .int 5)]
    let outcome := Store.empty.executeIn (some ⟨none, rules⟩) dayOne creation
    Store.empty.Reachable ∧ ∃ row : Record, outcome.1 = .ok (.record (some row)) ∧
      outcome.2.row .post row.id = some row ∧ rules.can .create row = false := by
  intro rules creation outcome
  refine ⟨.empty, _, rfl, rfl, ?_⟩
  decide

end Store

end RowGuard
