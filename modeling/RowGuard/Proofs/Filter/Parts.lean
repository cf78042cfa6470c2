import RowGuard.Proofs.Filter.Meaning
import RowGuard.Rule.Basic

/-!
# Filters and their parts

What a combination of filters passes, told by its parts. A conjunction passes what every part
passes, a disjunction what some part passes, and a negation what the filter does not. The parts may
be any trees, simplified or not: what is folded, flattened or left out on the way shows in no
decision. A condition asks what its predicates ask together.

* `Filter.admits_all_iff`, `Filter.admits_any_iff`: combinations of any number of filters
* `Predicate.MetBy`, `Condition.admits_iff`: a condition and its predicates
* `combinations_decided_by_parts`: every combination there is
-/

set_option autoImplicit false

namespace RowGuard

namespace Filter

/-- Parts hold together where each of them does. -/
theorem holdsJoin_all_iff (field : String → Option Json) (fs : List Filter) :
    holdsJoin field .all fs = true ↔ ∀ f ∈ fs, f.holds field = true := by
  induction fs with
  | nil => simp [holdsJoin, Connective.neutral]
  | cons f rest ih =>
    have hstep : holdsJoin field .all (f :: rest) =
        (f.holds field && holdsJoin field .all rest) := rfl
    rw [hstep, Bool.and_eq_true, ih, List.forall_mem_cons]

/-- One of some parts holds where one of them does. -/
theorem holdsJoin_any_iff (field : String → Option Json) (fs : List Filter) :
    holdsJoin field .any fs = true ↔ ∃ f ∈ fs, f.holds field = true := by
  induction fs with
  | nil => simp [holdsJoin, Connective.neutral]
  | cons f rest ih =>
    have hstep : holdsJoin field .any (f :: rest) =
        (f.holds field || holdsJoin field .any rest) := rfl
    rw [hstep, Bool.or_eq_true, ih]
    simp only [List.mem_cons, or_and_right, exists_or, exists_eq_left]

variable {α : Type} [Subject α] (s : α)

/-- **A conjunction passes** what every part passes. -/
theorem admits_all_iff (fs : List Filter) :
    (all fs).admits s = true ↔ ∀ f ∈ fs, f.admits s = true := by
  have hmeaning : (all fs).admits s = holdsJoin (Subject.field s) .all fs := holds_combine _ _ fs
  rw [hmeaning, holdsJoin_all_iff]
  rfl

/-- **A disjunction passes** what some part passes. -/
theorem admits_any_iff (fs : List Filter) :
    (any fs).admits s = true ↔ ∃ f ∈ fs, f.admits s = true := by
  have hmeaning : (any fs).admits s = holdsJoin (Subject.field s) .any fs := holds_combine _ _ fs
  rw [hmeaning, holdsJoin_any_iff]
  rfl

end Filter

/-! ## Predicates and conditions -/

section Conditions

variable {α : Type} [Subject α]

/-- **What a predicate asks of a subject.** With `eq` the field is there and agrees with the value,
with `ne` it is absent or does not agree. -/
def Predicate.MetBy (p : Predicate) (s : α) : Prop :=
  match p.op with
  | .eq => ∃ v, Subject.field s p.field = some v ∧ v.agrees p.value = true
  | .ne => ∀ v, Subject.field s p.field = some v → v.agrees p.value = false

/-- The filter of a predicate passes what the predicate asks for. -/
theorem Predicate.admits_toFilter_iff (p : Predicate) (s : α) :
    p.toFilter.admits s = true ↔ p.MetBy s := by
  obtain ⟨field, op, value⟩ := p
  have hmeaning : (Predicate.toFilter ⟨field, op, value⟩).admits s =
      op.holds (Subject.field s field) value := rfl
  rw [hmeaning]
  -- an absent field agrees with nothing, so only the operator is left to look at
  cases hfield : Subject.field s field with
  | none => cases op <;> simp [MetBy, Comparison.holds, hfield]
  | some v => cases op <;> simp [MetBy, Comparison.holds, hfield]

/-- **A condition is met** where each of its predicates is. -/
theorem Condition.admits_iff (c : Condition) (s : α) :
    c.admits s = true ↔ ∀ p ∈ c.predicates, p.MetBy s := by
  have hmeaning : c.admits s = (Filter.all (c.predicates.map Predicate.toFilter)).admits s := rfl
  rw [hmeaning, Filter.admits_all_iff, List.forall_mem_map]
  exact forall₂_congr fun p _ => p.admits_toFilter_iff s

/-- **Every combination is decided by its parts**, for any filters and any subject. -/
theorem combinations_decided_by_parts (s : α) :
    (∀ fs, (Filter.all fs).admits s = true ↔ ∀ f ∈ fs, f.admits s = true) ∧
    (∀ fs, (Filter.any fs).admits s = true ↔ ∃ f ∈ fs, f.admits s = true) ∧
    (∀ f g : Filter, (f.and g).admits s = true ↔ f.admits s = true ∧ g.admits s = true) ∧
    (∀ f g : Filter, (f.or g).admits s = true ↔ f.admits s = true ∨ g.admits s = true) ∧
    (∀ f : Filter, f.not.admits s = true ↔ ¬ f.admits s = true) ∧
    ∀ c : Condition, c.admits s = true ↔ ∀ p ∈ c.predicates, p.MetBy s := by
  refine ⟨Filter.admits_all_iff s, Filter.admits_any_iff s, ?_, ?_, ?_, fun c => c.admits_iff s⟩
  · intro f g
    rw [Filter.admits_and, Bool.and_eq_true]
  · intro f g
    rw [Filter.admits_or, Bool.or_eq_true]
  · intro f
    rw [Filter.admits_not, Bool.not_eq_true', Bool.not_eq_true]

/-- The two zeros are of one structure, so that only one of the comparisons is kept. -/
example : Filter.all [.eq "a" (.number (.double (.zero false))),
    .eq "a" (.number (.double (.zero true)))] = .eq "a" (.number (.double (.zero false))) := rfl

end Conditions

end RowGuard
