import RowGuard.Proofs.Rule.Policy

/-!
# Questions about a type

A rule set can be asked whether an action is allowed on a type as such. The answer comes from
another scan than the decision on a subject: every rule about the action and the type speaks, except
for the denials that have a condition (`Rule.speaksOf_none`). So the two scans may stop at different
rules. But an allowing rule that speaks of a subject speaks of its type, and a denial that speaks of
the type speaks of every subject.

* `RuleSet.resolve_none_of_some`: what is allowed on some subject is allowed on the type
* `RuleSet.canOnType_complete`: a type is refused only if every subject is, and conditional denials
  do not count
-/

set_option autoImplicit false

namespace RowGuard

variable {α : Type} [Subject α]

namespace Rule

/-- A denial of some subjects only. -/
def isConditionalDenial (r : Rule) : Bool := r.condition.isSome && !r.effect.isAllow

/-- **A question about a type** is answered by all rules but the conditional denials. -/
theorem speaksOf_none (r : Rule) : r.speaksOf (none : Option α) = !r.isConditionalDenial := by
  obtain ⟨effect, action, subject, condition⟩ := r
  cases condition with
  | none => rfl
  | some c => cases effect <;> rfl

/-- A rule that allows speaks of every type that it is about. -/
theorem speaksOf_none_of_allow {r : Rule} (h : r.effect = .allow) :
    r.speaksOf (none : Option α) = true := by
  rw [r.speaksOf_none, isConditionalDenial, h]
  simp [Effect.isAllow]

/-- A denial that speaks of a type speaks of every subject. -/
theorem speaksOf_of_none {r : Rule} (hdeny : r.effect = .deny)
    (h : r.speaksOf (none : Option α) = true) (s : α) : r.speaksOf (some s) = true := by
  obtain ⟨effect, action, type, condition⟩ := r
  cases hdeny
  cases condition with
  | none => rfl
  | some c => cases h

end Rule

namespace RuleSet

variable (action : Action) (type : SubjectType)

/-- The answer about a type does not depend on how its subjects are represented. -/
theorem canOnType_eq (rs : RuleSet) :
    rs.canOnType action type = (rs.resolve action type (none : Option α)).isAllow := by
  simp only [canOnType, resolve, Rule.speaksOf_none]

/-- **What is allowed on some subject** is allowed on its type. -/
theorem resolve_none_of_some (rs : RuleSet) {s : α}
    (h : rs.resolve action type (some s) = .allow) :
    rs.resolve action type (none : Option α) = .allow := by
  obtain ⟨rules⟩ := rs
  induction rules using List.reverseRecOn with
  | nil => exact h
  | append_singleton rules r ih =>
    rw [resolve_append_rule] at h ⊢
    cases heffect : r.effect with
    | allow =>
      rw [Rule.speaksOf_none_of_allow heffect, Bool.and_true]
      by_cases ha : r.appliesTo action type = true
      · rw [if_pos ha]
      · rw [if_neg ha]
        rw [Bool.eq_false_iff.2 ha, Bool.false_and] at h
        exact ih h
    | deny =>
      -- the subject is allowed, so this rule is silent on it, and then on the type too
      have hs : ¬ (r.appliesTo action type && r.speaksOf (some s)) = true := by
        intro hs
        rw [if_pos hs, heffect] at h
        cases h
      have htype : ¬ (r.appliesTo action type && r.speaksOf (none : Option α)) = true := by
        rw [Bool.and_eq_true] at hs ⊢
        exact fun hr => hs ⟨hr.1, Rule.speaksOf_of_none heffect hr.2 s⟩
      rw [if_neg hs] at h
      rw [if_neg htype]
      exact ih h

/-- The answer about a type is that of the rules that are no conditional denials. -/
theorem canOnType_filter (rs : RuleSet) :
    (RuleSet.mk (rs.rules.filter fun r => !r.isConditionalDenial)).canOnType action type =
      rs.canOnType action type := by
  rw [canOnType, canOnType, resolve_filter]
  intro r _ _ hspeaks
  rwa [r.speaksOf_none] at hspeaks

/-- **A type is refused only if every subject is.** Where the answer about a type is no, the
decision on each subject is a denial and the filter passes no subject. And the answer depends on the
rules other than conditional denials only: these may be put in or left out anywhere. -/
theorem canOnType_complete (rs : RuleSet) (action : Action) (type : SubjectType) :
    (rs.canOnType action type = false →
      ∀ {α : Type} [Subject α] (s : α), rs.resolve action type (some s) = .deny ∧
        (rs.filterFor action type).admits s = false) ∧
    ∀ rs' : RuleSet,
      (rs'.rules.filter fun r => !r.isConditionalDenial) =
        (rs.rules.filter fun r => !r.isConditionalDenial) →
      rs'.canOnType action type = rs.canOnType action type := by
  constructor
  · intro hno α _ s
    have hdeny : rs.resolve action type (some s) = .deny := by
      cases hs : rs.resolve action type (some s) with
      | deny => rfl
      | allow =>
        rw [rs.canOnType_eq action type (α := α), rs.resolve_none_of_some action type hs] at hno
        cases hno
    refine ⟨hdeny, ?_⟩
    rw [admits_filterFor, hdeny]
    rfl
  · intro rs' h
    rw [← rs'.canOnType_filter, h, rs.canOnType_filter]

/-- A rule set of two denials around a conditional allowance refuses updates of posts, and so of
each post. The policy of user 3 allows to delete posts, and still does without the denial that
keeps other users' posts. -/
theorem types_refused_and_allowed :
    let post := Record.new .post 1 [(authorField, .int 3)]
    let own := Rule.on .allow .manage .post (.eq authorField (.int 3))
    let foreign := Rule.on .deny .update .post (.ne authorField (.int 3))
    let frozen : RuleSet := ⟨[own, .plain .deny .update .post, foreign]⟩
    let owner : RuleSet := ⟨(owner 3).rules.take 3⟩
    frozen.resolve .update .post (some post) = .deny ∧
      (frozen.filterFor .update .post).admits post = false ∧
      owner.canOnType .delete .post = (RuleSet.owner 3).canOnType .delete .post ∧
      owner.canOnType .delete .post = true := by
  intro post own foreign frozen owner
  obtain ⟨hrefused, -⟩ := frozen.canOnType_complete .update .post
  obtain ⟨-, hsame⟩ := (RuleSet.owner 3).canOnType_complete .delete .post
  obtain ⟨hdeny, hfilter⟩ := hrefused rfl post
  exact ⟨hdeny, hfilter, hsame owner rfl, rfl⟩

end RuleSet

end RowGuard
