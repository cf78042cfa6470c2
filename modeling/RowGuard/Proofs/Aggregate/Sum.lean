import Mathlib.Algebra.Order.BigOperators.Group.List
import Mathlib.Algebra.Ring.Int.Defs
import Mathlib.Data.List.Infix
import RowGuard.Proofs.Aggregate.Basic
import RowGuard.Proofs.Number.Range

/-!
# The sum of whole numbers

A sum is taken from row to row in a signed 64-bit word. It is exact as long as each partial sum fits
one. If some partial sum does not, the numbers are added up as doubles instead, even if the total
would fit, so that the order of the rows decides. Numbers of one sign do not get nearer to zero on
the way: over these the sum is exact just if it fits.

* `exactSum?_of_fit`, `fit_of_exactSum?`: when a sum is exact
* `doubleSum?_int`: whole numbers added up as doubles do not leave the range
* `Store.sum_exact_iff`: the answer to `sum` over whole numbers
* `Store.fitting_sum_as_double`: a total that fits and is not answered exactly
-/

set_option autoImplicit false

namespace RowGuard

/-- A number that fits a signed 64-bit word. -/
def FitsWord (n : Int) : Prop := -0x8000000000000000 ≤ n ∧ n < 0x8000000000000000

instance (n : Int) : Decidable (FitsWord n) := inferInstanceAs (Decidable (_ ∧ _))

theorem sum_nonpos {vs : List Int} (h : ∀ v ∈ vs, v ≤ 0) : vs.sum ≤ 0 := by
  induction vs with
  | nil => exact Int.le_refl _
  | cons v rest ih =>
    obtain ⟨hv, hrest⟩ := List.forall_mem_cons.1 h
    rw [List.sum_cons]
    exact Int.add_nonpos hv (ih hrest)

/-- **Every partial sum fits** a signed word: the sums of the first numbers, however many. -/
def PartialSumsFit (vs : List Int) : Prop := ∀ first, first <+: vs → FitsWord first.sum

instance (vs : List Int) : Decidable (PartialSumsFit vs) :=
  decidable_of_iff (∀ first ∈ vs.inits, FitsWord first.sum)
    (forall_congr' fun first => imp_congr_left (List.mem_inits first vs))

theorem PartialSumsFit.sum {vs : List Int} (h : PartialSumsFit vs) : FitsWord vs.sum :=
  h vs (List.prefix_refl vs)

/-- **Numbers of one sign**: their partial sums lie between zero and the total. -/
theorem partialSumsFit_of_one_sign {vs : List Int}
    (hsign : (∀ v ∈ vs, 0 ≤ v) ∨ ∀ v ∈ vs, v ≤ 0) (h : FitsWord vs.sum) : PartialSumsFit vs := by
  rintro first ⟨rest, rfl⟩
  rw [List.sum_append] at h
  obtain ⟨hlow, hhigh⟩ := h
  rcases hsign with hsign | hsign
  · rw [List.forall_mem_append] at hsign
    have hfirst := List.sum_nonneg hsign.1
    have hrest := List.sum_nonneg hsign.2
    exact ⟨by omega, by omega⟩
  · rw [List.forall_mem_append] at hsign
    have hfirst := sum_nonpos hsign.1
    have hrest := sum_nonpos hsign.2
    exact ⟨by omega, by omega⟩

/-! ## The exact sum -/

theorem exactSum?_cons {total v : Int} (hv : FitsWord v) (ns : List Number) :
    exactSum? total (.int v :: ns) =
      if FitsWord (total + v) then exactSum? (total + v) ns else none := by
  have hsigned : (Number.int v).signed? = some v := if_pos hv
  rw [exactSum?, hsigned]
  rfl

/-- **While every partial sum fits**, the sum is exact. -/
theorem exactSum?_of_fit {total : Int} {vs : List Int} (hvs : ∀ v ∈ vs, FitsWord v)
    (h : ∀ first, first <+: vs → FitsWord (total + first.sum)) :
    exactSum? total (vs.map .int) = some (total + vs.sum) := by
  induction vs generalizing total with
  | nil => rw [List.map_nil, exactSum?, List.sum_nil, Int.add_zero]
  | cons v rest ih =>
    obtain ⟨hv, hrest⟩ := List.forall_mem_cons.1 hvs
    have hone : FitsWord (total + v) := by
      have hfirst := h [v] (List.cons_prefix_cons.2 ⟨rfl, List.nil_prefix⟩)
      rwa [List.sum_singleton] at hfirst
    rw [List.map_cons, exactSum?_cons hv, if_pos hone, List.sum_cons, ← Int.add_assoc]
    refine ih hrest fun first hfirst => ?_
    have hlonger := h (v :: first) (List.cons_prefix_cons.2 ⟨rfl, hfirst⟩)
    rwa [List.sum_cons, ← Int.add_assoc] at hlonger

/-- **An exact sum** has had no partial sum that does not fit. -/
theorem fit_of_exactSum? {total sum : Int} (htotal : FitsWord total) {vs : List Int}
    (hvs : ∀ v ∈ vs, FitsWord v) (h : exactSum? total (vs.map .int) = some sum) :
    ∀ first, first <+: vs → FitsWord (total + first.sum) := by
  induction vs generalizing total with
  | nil =>
    intro first hfirst
    rw [List.prefix_nil.1 hfirst, List.sum_nil, Int.add_zero]
    exact htotal
  | cons v rest ih =>
    obtain ⟨hv, hrest⟩ := List.forall_mem_cons.1 hvs
    rw [List.map_cons, exactSum?_cons hv, Option.ite_none_right_eq_some] at h
    intro first hfirst
    rcases List.prefix_cons_iff.1 hfirst with rfl | ⟨first, rfl, hshorter⟩
    · rw [List.sum_nil, Int.add_zero]
      exact htotal
    · rw [List.sum_cons, ← Int.add_assoc]
      exact ih h.1 hrest h.2 first hshorter

/-! ## The sum of doubles -/

/-- The bound of a sum of words as doubles, in units. At `2 ^ 117` the gap between doubles is
`2 ^ 65`, so a word more is at most half of it and is rounded off. -/
def wordSumBound : Nat := 2 ^ 117 * unitsPerOne

/-- The bound of a word, in units. -/
def wordBound : Nat := 2 ^ 64 * unitsPerOne

/-- **A whole number of 64 bits has a double**, within the bound of a word. -/
theorem toDouble?_int {v : Int} (h : v.natAbs ≤ 2 ^ 64) :
    ∃ d, (Number.int v).toDouble? = some d ∧ d.units.natAbs ≤ wordBound := by
  have hunits : (v * unitsPerOne).natAbs ≤ wordBound := by
    rw [Int.natAbs_mul, Int.natAbs_natCast]
    exact Nat.mul_le_mul_right _ h
  have hround : roundUnits wordBound = wordBound := by decide +kernel
  rw [← hround]
  exact Double.ofUnits?_of_le hunits (by decide +kernel)

/-- **A word more** does not lead past the bound of a sum. -/
theorem Double.add?_word {a b : Double} (ha : a.units.natAbs ≤ wordSumBound)
    (hb : b.units.natAbs ≤ wordBound) :
    ∃ c, a.add? b = some c ∧ c.units.natAbs ≤ wordSumBound := by
  unfold add?
  by_cases hzero : a.units + b.units = 0
  · rw [if_pos hzero]
    refine ⟨_, rfl, ?_⟩
    cases a.negative && b.negative <;> exact Nat.zero_le _
  · rw [if_neg hzero]
    have hsum : (a.units + b.units).natAbs ≤ wordSumBound + wordBound :=
      Nat.le_trans (Int.natAbs_add_le _ _) (Nat.add_le_add ha hb)
    have hround : roundUnits (wordSumBound + wordBound) = wordSumBound := by decide +kernel
    rw [← hround]
    exact ofUnits?_of_le hsum (by decide +kernel)

theorem foldl_add?_word {vs : List Int} (h : ∀ v ∈ vs, v.natAbs ≤ 2 ^ 64) {d : Double}
    (hd : d.units.natAbs ≤ wordSumBound) : ∃ e,
      (vs.map Number.int).foldl (fun acc n => do (← acc).add? (← n.toDouble?)) (some d) =
        some e := by
  induction vs generalizing d with
  | nil => exact ⟨d, rfl⟩
  | cons v rest ih =>
    obtain ⟨hv, hrest⟩ := List.forall_mem_cons.1 h
    obtain ⟨word, hword, hbound⟩ := toDouble?_int hv
    obtain ⟨next, hnext, hnextBound⟩ := Double.add?_word hd hbound
    obtain ⟨e, he⟩ := ih hrest hnextBound
    refine ⟨e, ?_⟩
    rw [List.map_cons, List.foldl_cons, hword]
    show List.foldl _ (d.add? word) _ = _
    rw [hnext, he]

/-- **Whole numbers added up as doubles** have a sum, however many they are. -/
theorem doubleSum?_int {vs : List Int} (h : ∀ v ∈ vs, v.natAbs ≤ 2 ^ 64) :
    ∃ d, doubleSum? (vs.map .int) = some d :=
  foldl_add?_word h (Nat.zero_le _)

/-! ## The answer -/

theorem FitsWord.natAbs_le {v : Int} (h : FitsWord v) : v.natAbs ≤ 2 ^ 64 := by
  obtain ⟨hlow, hhigh⟩ := h
  omega

/-- **The sum of whole numbers** is exact if every partial sum fits. -/
theorem over_sum_of_fit {vs : List Int} (hne : vs ≠ []) (hvs : ∀ v ∈ vs, FitsWord v)
    (h : PartialSumsFit vs) : AggregateKind.over .sum (vs.map .int) = .int vs.sum := by
  have hexact : exactSum? 0 (vs.map .int) = some vs.sum := by
    have hsum : exactSum? 0 (vs.map .int) = some (0 + vs.sum) :=
      exactSum?_of_fit hvs fun first hfirst => by
        rw [Int.zero_add]
        exact h first hfirst
    rwa [Int.zero_add] at hsum
  obtain ⟨v, rest, rfl⟩ := List.exists_cons_of_ne_nil hne
  show sumOf _ = _
  rw [sumOf, hexact]

/-- **Otherwise it is a double.** -/
theorem over_sum_of_not_fit {vs : List Int} (hne : vs ≠ []) (hvs : ∀ v ∈ vs, FitsWord v)
    (h : ¬ PartialSumsFit vs) :
    ∃ d, AggregateKind.over .sum (vs.map .int) = .number (.double d) := by
  have hexact : exactSum? 0 (vs.map .int) = none := by
    refine Option.eq_none_iff_forall_ne_some.2 fun sum hsum => h fun first hfirst => ?_
    have hfit := fit_of_exactSum? (by decide) hvs hsum first hfirst
    rwa [Int.zero_add] at hfit
  obtain ⟨d, hd⟩ := doubleSum?_int fun v hv => (hvs v hv).natAbs_le
  obtain ⟨v, rest, rfl⟩ := List.exists_cons_of_ne_nil hne
  refine ⟨d, ?_⟩
  show sumOf _ = _
  rw [sumOf, hexact]
  exact congrArg Json.ofDouble? hd

namespace Store

/-- **`sum` over signed whole numbers** is exact just if every partial sum fits a signed word, in
the order of the rows, and otherwise a double. So a total that does not fit is a double, and one
that fits is exact if the numbers are of one sign. Rows with the same numbers in another order have
the same sum if every partial sum fits in both orders. -/
theorem sum_exact_iff (now : Timestamp) (s : Store) {q : Query} (hop : q.operation = .aggregate)
    {field : String} (ha : q.aggregation = some ⟨.sum, field⟩) {vs : List Int} (hne : vs ≠ [])
    (hfit : ∀ v ∈ vs, FitsWord v) (hvs : q.numbers field s = vs.map .int) :
    let answer := (s.execute now q).1
    (answer = .ok (.value (.int vs.sum)) ↔ PartialSumsFit vs) ∧
    (¬ PartialSumsFit vs → ∃ d, answer = .ok (.value (.number (.double d)))) ∧
    (¬ FitsWord vs.sum → ∃ d, answer = .ok (.value (.number (.double d)))) ∧
    ((∀ v ∈ vs, 0 ≤ v) ∨ (∀ v ∈ vs, v ≤ 0) →
      (answer = .ok (.value (.int vs.sum)) ↔ FitsWord vs.sum)) ∧
    ∀ (s' : Store) (vs' : List Int), vs'.Perm vs → q.numbers field s' = vs'.map .int →
      PartialSumsFit vs → PartialSumsFit vs' → (s'.execute now q).1 = answer := by
  intro answer
  have hexact : PartialSumsFit vs → answer = .ok (.value (.int vs.sum)) := by
    intro h
    rw [← over_sum_of_fit hne hfit h]
    exact answer_aggregate now hop ha hvs
  have hdouble : ¬ PartialSumsFit vs → ∃ d, answer = .ok (.value (.number (.double d))) := by
    intro h
    obtain ⟨d, hd⟩ := over_sum_of_not_fit hne hfit h
    exact ⟨d, by rw [← hd]; exact answer_aggregate now hop ha hvs⟩
  have hiff : answer = .ok (.value (.int vs.sum)) ↔ PartialSumsFit vs := by
    refine ⟨fun hanswer => Decidable.by_contra fun h => ?_, hexact⟩
    obtain ⟨d, hd⟩ := hdouble h
    exact nomatch hanswer.symm.trans hd
  refine ⟨hiff, hdouble, fun h => hdouble fun hpartial => h hpartial.sum, fun hsign => ?_,
    fun s' vs' hperm hvs' h h' => ?_⟩
  · exact hiff.trans ⟨fun h => h.sum, partialSumsFit_of_one_sign hsign⟩
  · have hne' : vs' ≠ [] := fun hnil => hne (List.nil_perm.1 (hnil ▸ hperm))
    have hfit' : ∀ v ∈ vs', FitsWord v := fun v hv => hfit v (hperm.mem_iff.1 hv)
    rw [hexact h, answer_aggregate now hop ha hvs', over_sum_of_fit hne' hfit' h', hperm.sum_eq]

/-- The sum touches the greatest signed word twice and is exact. -/
theorem sum_of_views_exact :
    let views := [0x7FFFFFFFFFFFFFFF, -1, 1]
    ((viewed views).execute dayOne (ofViews .sum)).1 =
      .ok (.value (.int 0x7FFFFFFFFFFFFFFF)) := by
  intro views
  have hnumbers : (ofViews .sum).numbers "views" (viewed views) = views.map .int := rfl
  obtain ⟨hexact, -⟩ := sum_exact_iff dayOne (viewed views) rfl rfl (List.cons_ne_nil _ _)
    (by decide) hnumbers
  exact hexact.2 (by decide)

/-- **A total that fits and is answered as a double.** One view more than the greatest signed word
and one less: the total is that word, but the sum leaves the range on the way to it. In another
order of the rows it does not. -/
theorem fitting_sum_as_double :
    let views := [0x7FFFFFFFFFFFFFFF, 1, -1]
    let views' := [0x7FFFFFFFFFFFFFFF, -1, 1]
    (viewed views).Reachable ∧ (viewed views').Reachable ∧ views'.Perm views ∧
      FitsWord views.sum ∧
      (∃ d, ((viewed views).execute dayOne (ofViews .sum)).1 =
        .ok (.value (.number (.double d)))) ∧
      ((viewed views').execute dayOne (ofViews .sum)).1 = .ok (.value (.int views.sum)) := by
  intro views views'
  have hnumbers : (ofViews .sum).numbers "views" (viewed views) = views.map .int := rfl
  have hnumbers' : (ofViews .sum).numbers "views" (viewed views') = views'.map .int := rfl
  refine ⟨viewed_reachable _, viewed_reachable _, by decide, by decide, ?_, ?_⟩
  · obtain ⟨d, hd⟩ := over_sum_of_not_fit (List.cons_ne_nil _ _)
      (by decide : ∀ v ∈ views, FitsWord v) (by decide)
    exact ⟨d, by rw [answer_aggregate dayOne rfl rfl hnumbers, hd]⟩
  · rw [answer_aggregate dayOne rfl rfl hnumbers',
      over_sum_of_fit (List.cons_ne_nil _ _) (by decide) (by decide)]
    rfl

end Store

end RowGuard
