import RowGuard.Proofs.Filter.Distinct
import RowGuard.Rule.Basic

/-!
# The normal form of filters

Filters that are built by the combinations are in a normal form (`Filter.Normal`): a connective has
two parts or more, no two of them equal, none of them a constant or under the same connective, and
a negation stands only on a connective.

A combination is what is left of the parts of its filters (`Filter.combine_eq`): unless one of them
absorbs the others, each is spread into its parts, repetitions are left out, and the rest is put
together again. On normal filters spreading and putting together undo one another
(`Filter.spread_assemble`, `Filter.Normal.assemble_spread`).

* `Filter.Built`: the filters that combinations come to, and `Filter.Built.normal`
* `Condition.built_toFilter`, `RuleSet.built_filterFor`: conditions and rule sets come to such
-/

set_option autoImplicit false

namespace RowGuard

namespace Filter

variable {c : Connective} {f : Filter} {fs parts : List Filter}

/-- **What may stand under a connective**: neither a constant nor the same connective. -/
def FitsUnder (c : Connective) : Filter → Prop
  | const _ => False
  | join d _ => d ≠ c
  | test _ _ _ | negate _ => True

/-- **Filters in normal form.** -/
inductive Normal : Filter → Prop
  | const (b : Bool) : Normal (const b)
  | test (op : Comparison) (field : String) (value : Json) : Normal (test op field value)
  | join {c : Connective} {parts : List Filter} (several : 2 ≤ parts.length)
      (distinct : Distinct parts) (fits : ∀ f ∈ parts, f.FitsUnder c)
      (normal : ∀ f ∈ parts, Normal f) : Normal (join c parts)
  | negate {c : Connective} {parts : List Filter} (inner : Normal (.join c parts)) :
      Normal (negate (.join c parts))

/-! ## A combination by its parts -/

/-- Whether a filter takes all others along with it under a connective. -/
def absorbs (c : Connective) : Filter → Bool
  | const b => b != c.neutral
  | _ => false

/-- **What a filter adds** to the parts under a connective. -/
def spread (c : Connective) : Filter → List Filter
  | const _ => []
  | join d inner => if d = c then inner else [join d inner]
  | f => [f]

/-- **Parts put together** under a connective. -/
def assemble (c : Connective) : List Filter → Filter
  | [] => const c.neutral
  | [f] => f
  | parts => join c parts

/-- Parts are gathered from what each filter adds, unless one absorbs the others. -/
theorem gather_eq (parts fs : List Filter) : gather c parts fs =
    if fs.any (absorbs c) then none else some ((fs.flatMap (spread c)).foldl pushNew parts) := by
  induction fs generalizing parts with
  | nil => rfl
  | cons f rest ih =>
    rw [List.any_cons, List.flatMap_cons, List.foldl_append]
    cases f with
    | const b =>
      by_cases hb : b = c.neutral
      · rw [gather, if_pos hb, ih, absorbs, bne_eq_false_iff_eq.2 hb, Bool.false_or]
        rfl
      · rw [gather, if_neg hb, absorbs, bne_iff_ne.2 hb, Bool.true_or, if_pos rfl]
    | join d inner =>
      rw [gather, spread, show absorbs c (join d inner) = false from rfl, Bool.false_or]
      by_cases hd : d = c
      · rw [if_pos hd, if_pos hd, ih]
      · rw [if_neg hd, if_neg hd, ih]
        rfl
    | test op field value => exact ih _
    | negate g => exact ih _

/-- **A combination is what is left of the parts** of its filters. -/
theorem combine_eq (c : Connective) (fs : List Filter) : combine c fs =
    if fs.any (absorbs c) then const !c.neutral
    else assemble c (distinct (fs.flatMap (spread c))) := by
  unfold combine
  rw [gather_eq]
  by_cases h : fs.any (absorbs c) = true
  · rw [if_pos h, if_pos h]
  · rw [if_neg h, if_neg h]
    unfold distinct
    rcases (fs.flatMap (spread c)).foldl pushNew [] with _ | ⟨f, _ | ⟨g, rest⟩⟩ <;> rfl

/-! ## Spreading and putting together -/

theorem FitsUnder.spread (h : f.FitsUnder c) : f.spread c = [f] := by
  cases f with
  | const b => exact h.elim
  | join d inner => exact if_neg h
  | test op field value => rfl
  | negate g => rfl

theorem FitsUnder.absorbs (h : f.FitsUnder c) : f.absorbs c = false := by
  cases f with
  | const b => exact h.elim
  | join d inner => rfl
  | test op field value => rfl
  | negate g => rfl

/-- **What was put together is spread** into the same parts. -/
theorem spread_assemble (h : ∀ f ∈ parts, f.FitsUnder c) : (assemble c parts).spread c = parts := by
  match parts with
  | [] => rfl
  | [f] => exact (h f (List.mem_singleton_self f)).spread
  | f :: g :: rest => exact if_pos rfl

theorem absorbs_assemble (h : ∀ f ∈ parts, f.FitsUnder c) :
    (assemble c parts).absorbs c = false := by
  match parts with
  | [] => exact bne_eq_false_iff_eq.2 rfl
  | [f] => exact (h f (List.mem_singleton_self f)).absorbs
  | f :: g :: rest => rfl

namespace Normal

/-- A normal filter adds parts that may stand under the connective. -/
theorem fits_of_mem_spread (h : Normal f) : ∀ g ∈ f.spread c, g.FitsUnder c := by
  cases h with
  | const b => exact fun g hg => (List.not_mem_nil hg).elim
  | test op field value => exact fun g hg => List.mem_singleton.1 hg ▸ trivial
  | @join d inner several distinct fits normal =>
    intro g hg
    rw [spread] at hg
    split at hg
    · rename_i hd
      exact hd ▸ fits g hg
    · rename_i hd
      rw [List.mem_singleton.1 hg]
      exact hd
  | negate inner => exact fun g hg => List.mem_singleton.1 hg ▸ trivial

/-- What a normal filter adds is normal. -/
theorem of_mem_spread (h : Normal f) : ∀ g ∈ f.spread c, Normal g := by
  intro g hg
  cases f with
  | const b => cases hg
  | test op field value => exact List.mem_singleton.1 hg ▸ h
  | negate e => exact List.mem_singleton.1 hg ▸ h
  | join d inner =>
    rw [spread] at hg
    split at hg
    · cases h with
      | join several distinct fits normal => exact normal g hg
    · exact List.mem_singleton.1 hg ▸ h

theorem distinct_spread (h : Normal f) : Distinct (f.spread c) := by
  cases h with
  | const b => exact List.Pairwise.nil
  | test op field value => exact List.pairwise_singleton _ _
  | @join d inner several distinct fits normal =>
    rw [spread]
    split
    · exact distinct
    · exact List.pairwise_singleton _ _
  | negate inner => exact List.pairwise_singleton _ _

/-- **A normal filter is put together** from what it adds. -/
theorem assemble_spread (h : Normal f) (hf : f.absorbs c = false) :
    assemble c (f.spread c) = f := by
  cases h with
  | const b => exact congrArg Filter.const (bne_eq_false_iff_eq.1 hf).symm
  | test op field value => rfl
  | @join d inner several distinct fits normal =>
    rw [spread]
    split
    · rename_i hd
      subst hd
      match inner, several with
      | f :: g :: rest, _ => rfl
    · rfl
  | negate inner => rfl

/-- Parts that are put together are in normal form. -/
theorem assemble (hdistinct : Distinct parts) (hfits : ∀ f ∈ parts, f.FitsUnder c)
    (hparts : ∀ f ∈ parts, Normal f) : Normal (assemble c parts) := by
  match parts with
  | [] => exact .const _
  | [f] => exact hparts f (List.mem_singleton_self f)
  | f :: g :: rest => exact .join (Nat.le_add_left 2 rest.length) hdistinct hfits hparts

/-- What normal filters add, without repetitions, may stand under the connective. -/
theorem fits_of_mem_distinct (h : ∀ f ∈ fs, Normal f) :
    ∀ g ∈ Filter.distinct (fs.flatMap (spread c)), g.FitsUnder c := by
  intro g hg
  obtain ⟨f, hf, hgf⟩ := List.mem_flatMap.1 (mem_of_mem_distinct hg)
  exact (h f hf).fits_of_mem_spread g hgf

/-- **A combination of normal filters** is normal. -/
theorem combine (h : ∀ f ∈ fs, Normal f) : Normal (combine c fs) := by
  rw [combine_eq]
  split
  · exact .const _
  · refine assemble (distinct_distinct _) (fits_of_mem_distinct h) fun g hg => ?_
    obtain ⟨f, hf, hgf⟩ := List.mem_flatMap.1 (mem_of_mem_distinct hg)
    exact (h f hf).of_mem_spread g hgf

theorem combine_two {g : Filter} (hf : Normal f) (hg : Normal g) : Normal (Filter.combine c [f, g]) :=
  combine (List.forall_mem_cons.2 ⟨hf, List.forall_mem_singleton.2 hg⟩)

/-- **The negation of a normal filter** is normal. -/
theorem not (h : Normal f) : Normal f.not := by
  cases h with
  | const b => exact .const _
  | test op field value => exact .test _ _ _
  | join several distinct fits normal => exact .negate (.join several distinct fits normal)
  | negate inner => exact inner

end Normal

/-! ## What combinations come to -/

/-- **Filters built by the combinations**, nested in any way, from constants and comparisons. -/
inductive Built : Filter → Prop
  | pass : Built pass
  | fail : Built fail
  | eq (field : String) (value : Json) : Built (eq field value)
  | ne (field : String) (value : Json) : Built (ne field value)
  | all {fs : List Filter} (h : ∀ f ∈ fs, Built f) : Built (all fs)
  | any {fs : List Filter} (h : ∀ f ∈ fs, Built f) : Built (any fs)
  | and {f g : Filter} (hf : Built f) (hg : Built g) : Built (f.and g)
  | or {f g : Filter} (hf : Built f) (hg : Built g) : Built (f.or g)
  | not {f : Filter} (hf : Built f) : Built f.not

/-- **What is built by the combinations** is in normal form. -/
theorem Built.normal (h : Built f) : Normal f := by
  induction h with
  | pass => exact .const true
  | fail => exact .const false
  | eq field value => exact .test _ _ _
  | ne field value => exact .test _ _ _
  | all _ ih => exact .combine ih
  | any _ ih => exact .combine ih
  | and _ _ ihf ihg => exact .combine_two ihf ihg
  | or _ _ ihf ihg => exact .combine_two ihf ihg
  | not _ ih => exact ih.not

end Filter

theorem Predicate.built_toFilter (p : Predicate) : p.toFilter.Built := by
  obtain ⟨field, op, value⟩ := p
  cases op with
  | eq => exact .eq field value
  | ne => exact .ne field value

/-- The filter of a condition is built by combinations. -/
theorem Condition.built_toFilter (c : Condition) : c.toFilter.Built :=
  .all (List.forall_mem_map.2 fun p _ => p.built_toFilter)

theorem Rule.built_scope (r : Rule) : r.scope.Built := by
  unfold scope
  split
  · exact .pass
  · exact Condition.built_toFilter _

/-- **The filter of a rule set** is built by combinations. -/
theorem RuleSet.built_filterFor (rs : RuleSet) (action : Action) (type : SubjectType) :
    (rs.filterFor action type).Built := by
  unfold filterFor
  generalize rs.rules.filter (fun r => r.appliesTo action type) = rules
  -- one more rule combines its scope with the filter of the rules below
  have hfold : ∀ acc : Filter, acc.Built → (rules.foldl narrow acc).Built := by
    induction rules with
    | nil => exact fun acc hacc => hacc
    | cons r rest ih =>
      refine fun acc hacc => ih _ ?_
      unfold narrow
      cases r.effect with
      | allow => exact r.built_scope.or hacc
      | deny => exact r.built_scope.not.and hacc
  exact hfold _ .fail

end RowGuard
