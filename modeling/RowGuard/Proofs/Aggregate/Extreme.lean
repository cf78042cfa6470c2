import Mathlib.Data.List.Basic
import RowGuard.Proofs.Aggregate.Basic
import RowGuard.Proofs.Number.Order

/-!
# The least and the greatest number

`min` and `max` compare numbers as doubles, and of numbers with one double they keep the first. So
what they answer is extreme among the doubles, and no other number goes before it but one that
shares its double. Below `2 ^ 53` doubles are not shared, and the answer is extreme.

* `extremeFrom_split`: the first number whose double no other one goes before
* `Store.extremes_as_doubles`: the answers to `min` and `max` over whole numbers
* `Store.lesser_view_missed`: a least number that is not answered
-/

set_option autoImplicit false

namespace RowGuard

/-- **Which of two numbers an aggregate prefers.** -/
inductive AggregateKind.Prefers : AggregateKind → (Int → Int → Prop) → Prop
  | least : Prefers .min (· < ·)
  | greatest : Prefers .max (· > ·)

variable {kind : AggregateKind} {before : Int → Int → Prop}

namespace AggregateKind.Prefers

theorem trans (h : kind.Prefers before) {a b c : Int} (hab : before a b) (hbc : before b c) :
    before a c := by
  cases h <;> omega

theorem trans_not (h : kind.Prefers before) {a b c : Int} (hab : before a b)
    (hcb : ¬ before c b) : before a c := by
  cases h <;> omega

theorem asymm (h : kind.Prefers before) {a b : Int} (hab : before a b) : ¬ before b a := by
  cases h <;> omega

theorem eq_of_not (h : kind.Prefers before) {a b : Int} (hab : ¬ before a b)
    (hba : ¬ before b a) : a = b := by
  cases h <;> omega

/-- **Doubles keep the preference**, where they differ. -/
theorem not_before_intUnits (h : kind.Prefers before) {m n : Int} (hmn : before m n) :
    ¬ before (intUnits n) (intUnits m) := by
  cases h with
  | least => exact Int.not_lt.2 (intUnits_mono (Int.le_of_lt hmn))
  | greatest => exact Int.not_lt.2 (intUnits_mono (Int.le_of_lt hmn))

end AggregateKind.Prefers

/-- **The number that is left** is the first one whose double no other goes before: it goes before
all that are earlier, and none that is later goes before it. -/
theorem extremeFrom_split (h : kind.Prefers before) {beats : Int → Int → Bool}
    (hbeats : ∀ a b, beats a b = true ↔ before a b) (best : Number) (ns : List Number) :
    ∃ earlier later, best :: ns = earlier ++ extremeFrom beats best ns :: later ∧
      (∀ m ∈ earlier, before (extremeFrom beats best ns).units m.units) ∧
      ∀ m ∈ later, ¬ before m.units (extremeFrom beats best ns).units := by
  induction ns generalizing best with
  | nil => exact ⟨[], [], rfl, nofun, nofun⟩
  | cons n rest ih =>
    rw [extremeFrom]
    by_cases hn : beats n.units best.units = true
    · -- the number so far becomes an earlier one
      rw [if_pos hn]
      have hbefore := (hbeats _ _).1 hn
      obtain ⟨earlier, later, hsplit, hearlier, hlater⟩ := ih n
      refine ⟨best :: earlier, later, by rw [hsplit, List.cons_append], ?_, hlater⟩
      refine List.forall_mem_cons.2 ⟨?_, hearlier⟩
      cases earlier with
      | nil => rwa [← (List.cons.inj hsplit).1]
      | cons m earlier =>
        rw [← (List.cons.inj hsplit).1] at hearlier
        exact h.trans (hearlier n (List.mem_cons_self ..)) hbefore
    · rw [if_neg hn]
      have hbefore := (hbeats _ _).not.1 hn
      obtain ⟨earlier, later, hsplit, hearlier, hlater⟩ := ih best
      cases earlier with
      | nil =>
        -- the number so far is left in the end
        obtain ⟨hbest, hrest⟩ := List.cons.inj hsplit
        rw [← hbest] at hlater ⊢
        refine ⟨[], n :: later, congrArg (best :: n :: ·) hrest, nofun, ?_⟩
        exact List.forall_mem_cons.2 ⟨hbefore, hlater⟩
      | cons m earlier =>
        obtain ⟨rfl, hrest⟩ := List.cons.inj hsplit
        refine ⟨best :: n :: earlier, later, congrArg (best :: n :: ·) hrest, ?_, hlater⟩
        obtain ⟨hbest, hearlier⟩ := List.forall_mem_cons.1 hearlier
        exact List.forall_mem_cons.2 ⟨hbest, List.forall_mem_cons.2
          ⟨h.trans_not hbest hbefore, hearlier⟩⟩

/-! ## Whole numbers -/

/-- **First among doubles**: a whole number of a list whose double no other one goes before, and the
first of those with its double. -/
structure FirstAsDouble (before : Int → Int → Prop) (vs : List Int) (v : Int) : Prop where
  mem : v ∈ vs
  extreme : ∀ w ∈ vs, ¬ before (intUnits w) (intUnits v)
  earliest : ∃ earlier later, vs = earlier ++ v :: later ∧ ∀ w ∈ earlier, intUnits w ≠ intUnits v

namespace FirstAsDouble

variable {vs vs' : List Int} {v v' : Int}

/-- **A number that goes before it** shares its double. -/
theorem shares (hv : FirstAsDouble before vs v) (h : kind.Prefers before) {w : Int} (hw : w ∈ vs)
    (hbefore : before w v) : intUnits w = intUnits v :=
  h.eq_of_not (hv.extreme w hw) (h.not_before_intUnits hbefore)

/-- Below `2 ^ 53` no number goes before it. -/
theorem not_before (hv : FirstAsDouble before vs v) (h : kind.Prefers before)
    (hlow : v.natAbs < 2 ^ 53) {w : Int} (hw : w ∈ vs) : ¬ before w v := by
  intro hbefore
  have heq := intUnits_inj hlow (hv.shares h hw hbefore).symm
  rw [heq] at hbefore
  exact h.asymm hbefore hbefore

/-- **In another order** the first number has the same double. -/
theorem intUnits_eq (hv : FirstAsDouble before vs v) (hv' : FirstAsDouble before vs' v')
    (h : kind.Prefers before) (hperm : vs'.Perm vs) : intUnits v' = intUnits v :=
  h.eq_of_not (hv.extreme v' (hperm.mem_iff.1 hv'.mem)) (hv'.extreme v (hperm.mem_iff.2 hv.mem))

end FirstAsDouble

/-- **The answer over whole numbers** is the first among their doubles. -/
theorem over_int (h : kind.Prefers before) {vs : List Int} (hne : vs ≠ []) :
    ∃ v, kind.over (vs.map .int) = .int v ∧ FirstAsDouble before vs v := by
  obtain ⟨best, rest, rfl⟩ := List.exists_cons_of_ne_nil hne
  obtain ⟨beats, hbeats, hover⟩ : ∃ beats : Int → Int → Bool,
      (∀ a b, beats a b = true ↔ before a b) ∧ kind.over ((best :: rest).map .int) =
        .number (extremeFrom beats (.int best) (rest.map .int)) := by
    cases h with
    | least => exact ⟨_, fun _ _ => decide_eq_true_iff, rfl⟩
    | greatest => exact ⟨_, fun _ _ => decide_eq_true_iff, rfl⟩
  obtain ⟨earlier, later, hsplit, hearlier, hlater⟩ :=
    extremeFrom_split h hbeats (.int best) (rest.map .int)
  generalize extremeFrom beats (.int best) (rest.map .int) = left at *
  -- the numbers before and after it are whole too
  rw [← List.map_cons, List.map_eq_append_iff] at hsplit
  obtain ⟨earlier, others, hvs, rfl, hothers⟩ := hsplit
  obtain ⟨v, later, rfl, rfl, rfl⟩ := List.map_eq_cons_iff.1 hothers
  rw [List.forall_mem_map] at hearlier hlater
  refine ⟨v, hover, ⟨?_, ?_, earlier, later, hvs, ?_⟩⟩
  · rw [hvs]
    exact List.mem_append_right _ (List.mem_cons_self ..)
  · intro w hw
    rw [hvs, List.mem_append, List.mem_cons] at hw
    rcases hw with hw | rfl | hw
    · exact h.asymm (hearlier w hw)
    · exact fun hself => h.asymm hself hself
    · exact hlater w hw
  · intro w hw heq
    have hself := hearlier w hw
    rw [show Number.units (.int w) = intUnits w from rfl, heq] at hself
    exact h.asymm hself hself

/-- Of two numbers with one double the first is answered. -/
theorem over_pair (h : kind.Prefers before) {v w : Int} (hunits : intUnits v = intUnits w) :
    kind.over [.int v, .int w] = .int v := by
  cases h with
  | least =>
    show Json.number (if decide (intUnits w < intUnits v) = true then _ else _) = _
    rw [hunits, if_neg (by rw [decide_eq_true_iff]; exact Int.lt_irrefl _)]
    rfl
  | greatest =>
    show Json.number (if decide (intUnits v < intUnits w) = true then _ else _) = _
    rw [hunits, if_neg (by rw [decide_eq_true_iff]; exact Int.lt_irrefl _)]
    rfl

namespace Store

/-- **`min` and `max` over whole numbers** answer with one of them, the first whose double no other
goes before. Any number that goes before it shares its double. So the answer is the least or the
greatest of the numbers exactly when it is so among those that share its double, and always when it
is below `2 ^ 53`. Rows with the same numbers in another order are answered with the same double. -/
theorem extremes_as_doubles (now : Timestamp) (s : Store) {q : Query}
    (hop : q.operation = .aggregate) (h : kind.Prefers before) {field : String}
    (ha : q.aggregation = some ⟨kind, field⟩) {vs : List Int} (hne : vs ≠ [])
    (hvs : q.numbers field s = vs.map .int) :
    ∃ v, (s.execute now q).1 = .ok (.value (.int v)) ∧ FirstAsDouble before vs v ∧
      ((∀ w ∈ vs, ¬ before w v) ↔ ∀ w ∈ vs, intUnits w = intUnits v → ¬ before w v) ∧
      (v.natAbs < 2 ^ 53 → ∀ w ∈ vs, ¬ before w v) ∧
      ∀ (s' : Store) (vs' : List Int), vs'.Perm vs → q.numbers field s' = vs'.map .int →
        ∃ v', (s'.execute now q).1 = .ok (.value (.int v')) ∧ intUnits v' = intUnits v ∧
          (v.natAbs < 2 ^ 53 → v' = v) := by
  have hanswer : ∀ (s' : Store) (vs' : List Int), vs' ≠ [] → q.numbers field s' = vs'.map .int →
      ∃ v', (s'.execute now q).1 = .ok (.value (.int v')) ∧ FirstAsDouble before vs' v' := by
    intro s' vs' hne' hvs'
    obtain ⟨v', hover, hfirst⟩ := over_int h hne'
    exact ⟨v', by rw [answer_aggregate now hop ha hvs', hover], hfirst⟩
  obtain ⟨v, hv, hfirst⟩ := hanswer s vs hne hvs
  refine ⟨v, hv, hfirst, ⟨fun hall w hw _ => hall w hw, fun hall w hw hbefore => ?_⟩,
    fun hlow w hw => hfirst.not_before h hlow hw, fun s' vs' hperm hvs' => ?_⟩
  · exact hall w hw (hfirst.shares h hw hbefore) hbefore
  · have hne' : vs' ≠ [] := fun hnil => hne (List.nil_perm.1 (hnil ▸ hperm))
    obtain ⟨v', hv', hfirst'⟩ := hanswer s' vs' hne' hvs'
    have hunits := hfirst.intUnits_eq hfirst' h hperm
    exact ⟨v', hv', hunits, fun hlow => (intUnits_inj hlow hunits.symm).symm⟩

/-- The least of three numbers of views, two of which are beyond `2 ^ 53`. -/
theorem least_view_answered :
    let views := [9007199254740993, -7, 9223372036854775808]
    ((viewed views).execute dayOne (ofViews .min)).1 = .ok (.value (.int (-7))) := by
  intro views
  have hnumbers : (ofViews .min).numbers "views" (viewed views) = views.map .int := rfl
  obtain ⟨v, hv, hfirst, -⟩ := extremes_as_doubles dayOne (viewed views) rfl .least rfl
    (List.cons_ne_nil _ _) hnumbers
  rcases List.mem_cons.1 hfirst.mem with rfl | hmem
  · exact absurd (by decide +kernel) (hfirst.extreme (-7) (by decide))
  rcases List.mem_cons.1 hmem with rfl | hmem
  · exact hv
  · cases List.mem_singleton.1 hmem
    exact absurd (by decide +kernel) (hfirst.extreme (-7) (by decide))

/-- **A least number that is not answered.** The numbers `2 ^ 53 + 1` and `2 ^ 53` share a double,
so `min` answers with whichever comes first, and so does `max`. -/
theorem lesser_view_missed :
    let s := viewed [9007199254740993, 9007199254740992]
    let s' := viewed [9007199254740992, 9007199254740993]
    s.Reachable ∧ s'.Reachable ∧
      (s.execute dayOne (ofViews .min)).1 = .ok (.value (.int 9007199254740993)) ∧
      (s'.execute dayOne (ofViews .min)).1 = .ok (.value (.int 9007199254740992)) ∧
      (s'.execute dayOne (ofViews .max)).1 = .ok (.value (.int 9007199254740992)) ∧
      (9007199254740992 : Int) < 9007199254740993 := by
  intro s s'
  have hunits : intUnits 9007199254740993 = intUnits 9007199254740992 := by decide +kernel
  have hnumbers : ∀ kind, (ofViews kind).numbers "views" s =
      [.int 9007199254740993, .int 9007199254740992] := fun _ => rfl
  have hnumbers' : ∀ kind, (ofViews kind).numbers "views" s' =
      [.int 9007199254740992, .int 9007199254740993] := fun _ => rfl
  refine ⟨viewed_reachable _, viewed_reachable _, ?_, ?_, ?_, by decide⟩
  · rw [answer_aggregate dayOne rfl rfl (hnumbers .min), over_pair .least hunits]
  · rw [answer_aggregate dayOne rfl rfl (hnumbers' .min), over_pair .least hunits.symm]
  · rw [answer_aggregate dayOne rfl rfl (hnumbers' .max), over_pair .greatest hunits.symm]

end Store

end RowGuard
