import RowGuard.Proofs.Filter.Compared
import RowGuard.Proofs.Filter.Parts
import RowGuard.Proofs.Rule.Agreement

/-!
# What a rule set asks of a subject

A rule set sees a subject through the comparisons in the conditions of its rules. Two subjects, of
one type or of two, on which each of these comes out alike are decided alike.

* `RuleSet.tests`: the comparisons of a rule set
* `RuleSet.resolve_congr`, `RuleSet.can_congr`: nothing else counts
* `RuleSet.about`: the rules that count for an action and a type
-/

set_option autoImplicit false

namespace RowGuard

variable {α β : Type} [Subject α] [Subject β] {x : α} {y : β}

/-- A condition is met by both subjects or by neither. -/
theorem Condition.admits_congr (c : Condition)
    (h : ∀ t ∈ c.predicates, t.toFilter.admits x = t.toFilter.admits y) :
    c.admits x = c.admits y := by
  rw [Bool.eq_iff_iff, c.admits_iff, c.admits_iff]
  refine forall₂_congr fun t ht => ?_
  rw [← t.admits_toFilter_iff, ← t.admits_toFilter_iff, h t ht]

/-- The comparisons of a rule. -/
def Rule.tests (r : Rule) : List Predicate :=
  match r.condition with
  | some c => c.predicates
  | none => []

/-- A rule speaks of both subjects or of neither. -/
theorem Rule.speaksOf_congr (r : Rule)
    (h : ∀ t ∈ r.tests, t.toFilter.admits x = t.toFilter.admits y) :
    r.speaksOf (some x) = r.speaksOf (some y) := by
  obtain ⟨effect, action, subject, condition⟩ := r
  cases condition with
  | none => rfl
  | some c => exact c.admits_congr h

namespace RuleSet

/-- The comparisons of a rule set. -/
def tests (rs : RuleSet) : List Predicate := rs.rules.flatMap Rule.tests

/-- **A rule set decides alike** about subjects that its comparisons do not tell apart. -/
theorem resolve_congr (rs : RuleSet)
    (h : ∀ t ∈ rs.tests, t.toFilter.admits x = t.toFilter.admits y) (action : Action)
    (type : SubjectType) : rs.resolve action type (some x) = rs.resolve action type (some y) := by
  obtain ⟨rules⟩ := rs
  -- the last rule decides first, so the rules are taken from the end
  induction rules using List.reverseRecOn with
  | nil => rfl
  | append_singleton rules r ih =>
    rw [tests, List.flatMap_append, List.forall_mem_append, List.flatMap_singleton] at h
    rw [resolve_append_rule, resolve_append_rule, r.speaksOf_congr h.2, ih h.1]

/-- The same of subjects of one type. -/
theorem can_congr (rs : RuleSet)
    (h : ∀ t ∈ rs.tests, t.toFilter.admits x = t.toFilter.admits y)
    (htype : Subject.subjectType x = Subject.subjectType y) (action : Action) :
    rs.can action x = rs.can action y := by
  rw [can, can, htype, rs.resolve_congr h]

/-- The rules about an action and a type. -/
def about (rs : RuleSet) (action : Action) (type : SubjectType) : RuleSet :=
  ⟨rs.rules.filter fun r => r.appliesTo action type⟩

/-- **The other rules** do not count. -/
theorem resolve_about (rs : RuleSet) (action : Action) (type : SubjectType)
    (subject : Option α) :
    (rs.about action type).resolve action type subject = rs.resolve action type subject :=
  rs.resolve_filter action type fun _ _ happlies _ => happlies

/-- Subjects of one type are judged alike if the rules about the action and the type do not tell
them apart. -/
theorem can_congr_about (rs : RuleSet) (action : Action) (type : SubjectType)
    (hx : Subject.subjectType x = type) (hy : Subject.subjectType y = type)
    (h : ∀ t ∈ (rs.about action type).tests, t.toFilter.admits x = t.toFilter.admits y) :
    rs.can action x = rs.can action y := by
  rw [can, can, hx, hy, ← rs.resolve_about, ← rs.resolve_about, (rs.about action type).resolve_congr h]

end RuleSet

end RowGuard
