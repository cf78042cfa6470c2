import Mathlib.Data.List.Induction
import RowGuard.Proofs.Filter.Meaning
import RowGuard.Rule.Basic

/-!
# The filter of a rule set and its decisions

A rule set is read in two directions: a decision scans it from the last rule back and stops at the
first one that speaks, while the filter is built from the first rule on. Both see one more rule at
the end in the same way (`resolve_append_rule`, `admits_filterFor_append_rule`), so they agree on
every rule set.

* `admits_filterFor`: the filter passes a subject as the decision on it allows
* `filterFor_admits_iff_resolve`: so the rows a filter selects are the rows a decision allows
-/

set_option autoImplicit false

namespace RowGuard

theorem Effect.isAllow_iff (e : Effect) : e.isAllow = true ↔ e = .allow := by
  cases e <;> decide

namespace Rule

variable {α : Type} [Subject α]

/-- A rule speaks of the subjects in its scope. -/
theorem admits_scope (r : Rule) (s : α) : r.scope.admits s = r.speaksOf (some s) := by
  unfold scope speaksOf
  cases r.condition with
  | none => rfl
  | some c => rfl

end Rule

namespace RuleSet

variable {α : Type} [Subject α] (action : Action) (type : SubjectType)

/-- **One more rule** decides whatever it speaks about, and leaves the rest to the rules below. -/
theorem resolve_append_rule (rules : List Rule) (r : Rule) (subject : Option α) :
    (RuleSet.mk (rules ++ [r])).resolve action type subject =
      if r.appliesTo action type && r.speaksOf subject then r.effect
      else (RuleSet.mk rules).resolve action type subject := by
  unfold resolve
  rw [List.reverse_append, List.reverse_singleton, List.singleton_append, List.find?_cons]
  by_cases h : (r.appliesTo action type && r.speaksOf subject) = true
  · rw [if_pos h, h]
  · rw [if_neg h, Bool.eq_false_iff.2 h]

/-- **Rules that do not speak about a question** may be dropped. -/
theorem resolve_filter {p : Rule → Bool} {subject : Option α} (rs : RuleSet)
    (h : ∀ r ∈ rs.rules, r.appliesTo action type = true → r.speaksOf subject = true → p r = true) :
    (RuleSet.mk (rs.rules.filter p)).resolve action type subject =
      rs.resolve action type subject := by
  obtain ⟨rules⟩ := rs
  induction rules using List.reverseRecOn with
  | nil => rfl
  | append_singleton rules r ih =>
    rw [List.forall_mem_append, List.forall_mem_singleton] at h
    rw [List.filter_append, resolve_append_rule, ← ih h.1]
    by_cases hp : p r = true
    · rw [List.filter_cons_of_pos hp, List.filter_nil, resolve_append_rule]
    · have hsilent : ¬ (r.appliesTo action type && r.speaksOf subject) = true := by
        rw [Bool.and_eq_true]
        exact fun hr => hp (h.2 hr.1 hr.2)
      rw [List.filter_cons_of_neg hp, List.filter_nil, List.append_nil, if_neg hsilent]

/-- What one more rule makes of a filter: its effect in its scope, the filter elsewhere. -/
theorem admits_narrow (acc : Filter) (r : Rule) (s : α) :
    (narrow acc r).admits s = if r.speaksOf (some s) then r.effect.isAllow else acc.admits s := by
  unfold narrow
  cases r.effect with
  | allow =>
    rw [Filter.admits_or, r.admits_scope]
    cases r.speaksOf (some s) <;> rfl
  | deny =>
    rw [Filter.admits_and, Filter.admits_not, r.admits_scope]
    cases r.speaksOf (some s) <;> rfl

/-- **One more rule** narrows or widens the filter where it applies. -/
theorem admits_filterFor_append_rule (rules : List Rule) (r : Rule) (s : α) :
    ((RuleSet.mk (rules ++ [r])).filterFor action type).admits s =
      if r.appliesTo action type && r.speaksOf (some s) then r.effect.isAllow
      else ((RuleSet.mk rules).filterFor action type).admits s := by
  unfold filterFor
  rw [List.filter_append, List.foldl_append, List.filter_cons, List.filter_nil]
  by_cases ha : r.appliesTo action type = true
  · rw [if_pos ha, ha, Bool.true_and, List.foldl_cons, List.foldl_nil, admits_narrow]
  · rw [if_neg ha, Bool.eq_false_iff.2 ha, List.foldl_nil]
    rfl

/-- **The filter passes a subject** as the decision allows it. -/
theorem admits_filterFor (rs : RuleSet) (s : α) :
    (rs.filterFor action type).admits s = (rs.resolve action type (some s)).isAllow := by
  obtain ⟨rules⟩ := rs
  induction rules using List.reverseRecOn with
  | nil => rfl
  | append_singleton rules r ih =>
    rw [admits_filterFor_append_rule, resolve_append_rule, ih]
    by_cases h : (r.appliesTo action type && r.speaksOf (some s)) = true
    · rw [if_pos h, if_pos h]
    · rw [if_neg h, if_neg h]

/-- **Filters and decisions agree** on every subject, whatever the rules and their order. -/
theorem filterFor_admits_iff_resolve (rs : RuleSet) (s : α) :
    (rs.filterFor action type).admits s = true ↔ rs.resolve action type (some s) = .allow := by
  rw [admits_filterFor, Effect.isAllow_iff]

end RuleSet

end RowGuard
