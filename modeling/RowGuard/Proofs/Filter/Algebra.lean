import RowGuard.Proofs.Filter.Normal
import RowGuard.Rule.Policy

/-!
# The algebra of filters

On filters in normal form the combinations obey their laws as equations between trees, not only in
meaning. All laws of a connective come from one: a combination among the filters of a combination
may be spliced in (`Filter.combine_splice`).

* `Filter.combine_assoc`, `Filter.combine_self`: a connective is associative and idempotent
* `Filter.combine_neutral`, `Filter.combine_of_absorbs`: its unit and its zero
* `Filter.built_algebra`: the filters that are built by the combinations, and their laws
-/

set_option autoImplicit false

namespace RowGuard

namespace Filter

variable {c : Connective} {f g h : Filter}

/-- A filter that absorbs is the zero of the connective. -/
theorem eq_of_absorbs (hf : f.absorbs c = true) : f = const !c.neutral := by
  cases f with
  | const b => exact congrArg const (Bool.eq_not.2 (bne_iff_ne.1 hf))
  | test op field value => cases hf
  | join d parts => cases hf
  | negate e => cases hf

theorem absorbs_const (c : Connective) : (const !c.neutral).absorbs c = true := by
  cases c <;> rfl

/-- **Zero**: one filter that absorbs is all that is left. -/
theorem combine_of_absorbs {fs : List Filter} (hf : f ∈ fs) (habsorbs : f.absorbs c = true) :
    combine c fs = const !c.neutral := by
  rw [combine_eq, if_pos (List.any_eq_true.2 ⟨f, hf, habsorbs⟩)]

/-- Combinations are equal where the same parts are left and the same is absorbed. -/
theorem combine_congr {fs gs : List Filter} (habsorbs : fs.any (absorbs c) = gs.any (absorbs c))
    (hparts : distinct (fs.flatMap (spread c)) = distinct (gs.flatMap (spread c))) :
    combine c fs = combine c gs := by
  rw [combine_eq, combine_eq, habsorbs, hparts]

/-- **A combination may be spliced in** where it is one of the filters to be combined. -/
theorem combine_splice (fs : List Filter) {gs : List Filter} (hgs : ∀ g ∈ gs, Normal g)
    (hs : List Filter) : combine c (fs ++ combine c gs :: hs) = combine c (fs ++ (gs ++ hs)) := by
  by_cases hany : gs.any (absorbs c) = true
  · -- the inner combination is the zero, and so are both outer ones
    obtain ⟨g, hg, habsorbs⟩ := List.any_eq_true.1 hany
    rw [combine_of_absorbs hg habsorbs, combine_of_absorbs
      (List.mem_append_right _ List.mem_cons_self) (absorbs_const c), combine_of_absorbs
      (List.mem_append_right _ (List.mem_append_left _ hg)) habsorbs]
  · have hfits := Normal.fits_of_mem_distinct (c := c) hgs
    have hinner : combine c gs = assemble c (distinct (gs.flatMap (spread c))) := by
      rw [combine_eq, if_neg hany]
    have habsorbs : (combine c gs).absorbs c = false := by rw [hinner, absorbs_assemble hfits]
    have hspread : (combine c gs).spread c = distinct (gs.flatMap (spread c)) := by
      rw [hinner, spread_assemble hfits]
    refine combine_congr ?_ ?_
    · simp only [List.any_append, List.any_cons, habsorbs, Bool.eq_false_iff.2 hany, Bool.false_or]
    · simp only [List.flatMap_append, List.flatMap_cons, hspread, distinct_splice]

/-- **Associativity.** -/
theorem combine_assoc (hf : Normal f) (hg : Normal g) (hh : Normal h) :
    combine c [combine c [f, g], h] = combine c [f, combine c [g, h]] := by
  calc combine c [combine c [f, g], h]
      = combine c [f, g, h] :=
        combine_splice [] (List.forall_mem_cons.2 ⟨hf, List.forall_mem_singleton.2 hg⟩) [h]
    _ = combine c [f, combine c [g, h]] :=
        (combine_splice [f] (List.forall_mem_cons.2 ⟨hg, List.forall_mem_singleton.2 hh⟩) []).symm

/-- A normal filter is the combination of itself alone. -/
theorem combine_singleton (hf : Normal f) : combine c [f] = f := by
  rw [combine_eq, List.any_cons, List.any_nil, Bool.or_false, List.flatMap_singleton]
  split
  · rename_i habsorbs
    exact (eq_of_absorbs habsorbs).symm
  · rename_i habsorbs
    rw [hf.distinct_spread.distinct_eq, hf.assemble_spread (Bool.eq_false_iff.2 habsorbs)]

/-- **Idempotence.** -/
theorem combine_self (hf : Normal f) : combine c [f, f] = f := by
  have hrepeated : distinct (f.spread c ++ f.spread c) = distinct (f.spread c) := by
    unfold distinct
    rw [List.foldl_append]
    exact foldl_of_covers fun g hg => covers_foldl (.inr hg)
  have hsingle : combine c [f, f] = combine c [f] := by
    refine combine_congr ?_ ?_
    · simp only [List.any_cons, List.any_nil, Bool.or_false, Bool.or_self]
    · simp only [List.flatMap_cons, List.flatMap_nil, List.append_nil, hrepeated]
  rw [hsingle, combine_singleton hf]

/-- **Unit**, on either side. -/
theorem combine_neutral (hf : Normal f) :
    combine c [const c.neutral, f] = f ∧ combine c [f, const c.neutral] = f := by
  have hadds : (const c.neutral).spread c = [] := rfl
  have hkeeps : (const c.neutral).absorbs c = false := bne_eq_false_iff_eq.2 rfl
  have hleft : combine c [const c.neutral, f] = combine c [f] := by
    refine combine_congr ?_ ?_
    · rw [List.any_cons, hkeeps, Bool.false_or]
    · rw [List.flatMap_cons, hadds, List.nil_append]
  have hright : combine c [f, const c.neutral] = combine c [f] := by
    refine combine_congr ?_ ?_
    · simp only [List.any_cons, List.any_nil, hkeeps, Bool.or_false]
    · simp only [List.flatMap_cons, List.flatMap_nil, hadds, List.append_nil]
  rw [hleft, hright]
  exact ⟨combine_singleton hf, combine_singleton hf⟩

/-- **A normal filter negated twice** is the filter. -/
theorem Normal.not_not (hf : Normal f) : f.not.not = f := by
  cases hf with
  | const b => exact congrArg Filter.const (Bool.not_not b)
  | test op field value => cases op <;> rfl
  | join several distinct fits normal => rfl
  | negate inner => rfl

/-- **What is built by the combinations** is in normal form, also the filter of a condition and that
of a rule set, and on such filters the combinations obey their laws: `and` and `or` are associative
and idempotent, the constants are their units and zeros, and a double negation is undone. The
equations are between trees, so they hold for any equality of filters. -/
theorem built_algebra :
    (∀ f, Built f → Normal f) ∧
    (∀ c : Condition, Built c.toFilter) ∧
    (∀ (rs : RuleSet) action type, Built (rs.filterFor action type)) ∧
    (∀ f g h, Built f → Built g → Built h →
      (f.and g).and h = f.and (g.and h) ∧ (f.or g).or h = f.or (g.or h)) ∧
    ∀ f, Built f →
      (f.and f = f ∧ f.or f = f) ∧
      (pass.and f = f ∧ f.and pass = f ∧ fail.or f = f ∧ f.or fail = f) ∧
      (fail.and f = fail ∧ f.and fail = fail ∧ pass.or f = pass ∧ f.or pass = pass) ∧
      f.not.not = f := by
  refine ⟨fun f hf => hf.normal, Condition.built_toFilter, RuleSet.built_filterFor,
    fun f g h hf hg hh => ?_, fun f hf => ⟨?_, ?_, ?_, hf.normal.not_not⟩⟩
  · exact ⟨combine_assoc hf.normal hg.normal hh.normal, combine_assoc hf.normal hg.normal hh.normal⟩
  · exact ⟨combine_self hf.normal, combine_self hf.normal⟩
  · obtain ⟨hall, hall'⟩ := combine_neutral (c := .all) hf.normal
    obtain ⟨hany, hany'⟩ := combine_neutral (c := .any) hf.normal
    exact ⟨hall, hall', hany, hany'⟩
  · have hzero : ∀ c : Connective, combine c [const !c.neutral, f] = const !c.neutral ∧
        combine c [f, const !c.neutral] = const !c.neutral := fun c =>
      ⟨combine_of_absorbs List.mem_cons_self (absorbs_const c),
        combine_of_absorbs (List.mem_cons_of_mem f List.mem_cons_self) (absorbs_const c)⟩
    exact ⟨(hzero .all).1, (hzero .all).2, (hzero .any).1, (hzero .any).2⟩

/-- The posts that may be deleted are those of user 3 and the unpublished ones, but for some title.
Narrowing a search by them once more changes nothing. -/
theorem scope_narrows_once :
    let scope := (RuleSet.mk
      [.on .allow .delete .post (.eq authorField (.ofId 3)),
        .on .allow .delete .post (.eq "published" (.bool false)),
        .on .deny .delete .post (.eq "title" (.string "kept"))]).filterFor .delete .post
    let search := (Filter.eq "title" (.string "draft")).or (.ne "published" (.bool true))
    scope = .join .all [.ne "title" (.string "kept"),
      .join .any [.eq "published" (.bool false), .eq authorField (.ofId 3)]] ∧
    Built scope ∧ Built search ∧ Normal scope ∧
    (search.and scope).and scope = search.and scope ∧ scope.not.not = scope := by
  intro scope search
  obtain ⟨hnormal, -, hscopes, hassoc, hlaws⟩ := built_algebra
  have hscope : Built scope := hscopes _ .delete .post
  have hsearch : Built search := .or (.eq _ _) (.ne _ _)
  obtain ⟨⟨hself, -⟩, -, -, hnot⟩ := hlaws scope hscope
  refine ⟨rfl, hscope, hsearch, hnormal scope hscope, ?_, hnot⟩
  rw [(hassoc search scope scope hsearch hscope hscope).1, hself]

end Filter

end RowGuard
