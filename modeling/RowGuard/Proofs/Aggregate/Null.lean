import Mathlib.Data.Set.List
import RowGuard.Proofs.Aggregate.Sum

/-!
# Where an aggregate is null

Over no numbers an aggregate is null. Over some, `min` and `max` answer with one of them. `sum` and
`avg` add up doubles, `sum` only if the numbers have no exact sum, and they are null if the sum of
the first few leaves the range of doubles on the way, whatever comes after. Whole numbers, however
many, do not add up to so much; two doubles may.

* `LeavesRange`: doubles that leave the range when they are added up
* `doubleSum?_eq_none_iff`: only these have no sum
* `Store.aggregate_null_iff`: the aggregates that are null
* `Store.average_missing`: numbers whose average is null
-/

set_option autoImplicit false

namespace RowGuard

/-! ## The sum of doubles -/

/-- **Numbers that leave the range** when their doubles are added up from first to last: the first
few have a sum, but with the next one, if it has a double at all, the sum comes to the end of the
range or beyond it. -/
def LeavesRange (ns : List Number) : Prop :=
  ∃ first n rest sum, ns = first ++ n :: rest ∧ doubleSum? first = some sum ∧
    ∀ d, n.toDouble? = some d → Double.limit ≤ (sum.units + d.units).natAbs

theorem doubleSum?_concat (first : List Number) (n : Number) :
    doubleSum? (first ++ [n]) =
      (doubleSum? first).bind fun sum => n.toDouble?.bind fun d => sum.add? d := by
  unfold doubleSum?
  rw [List.foldl_append]
  rfl

/-- Without a sum of the first numbers there is none of them all. -/
theorem doubleSum?_append_of_none {first : List Number} (h : doubleSum? first = none)
    (rest : List Number) : doubleSum? (first ++ rest) = none := by
  induction rest using List.reverseRecOn with
  | nil => rw [List.append_nil, h]
  | append_singleton rest n ih =>
    rw [← List.append_assoc, doubleSum?_concat, ih]
    rfl

/-- A number is added to a sum unless the sum leaves the range with it. -/
theorem bind_add?_eq_none_iff (sum : Double) (n : Number) :
    (n.toDouble?.bind fun d => sum.add? d) = none ↔
      ∀ d, n.toDouble? = some d → Double.limit ≤ (sum.units + d.units).natAbs := by
  rw [Option.bind_eq_none_iff]
  exact forall₂_congr fun d _ => Double.add?_eq_none_iff sum d

theorem LeavesRange.append {first : List Number} (h : LeavesRange first) (more : List Number) :
    LeavesRange (first ++ more) := by
  obtain ⟨few, n, rest, sum, rfl, hsum, hlimit⟩ := h
  refine ⟨few, n, rest ++ more, sum, ?_, hsum, hlimit⟩
  rw [List.append_assoc, List.cons_append]

/-- **Numbers without a sum of doubles** are those that leave the range. -/
theorem doubleSum?_eq_none_iff (ns : List Number) : doubleSum? ns = none ↔ LeavesRange ns := by
  constructor
  · -- the last number is added to a sum of those before it, if these have one
    induction ns using List.reverseRecOn with
    | nil =>
      intro hnone
      cases hnone
    | append_singleton first n ih =>
      intro hnone
      cases hsum : doubleSum? first with
      | none => exact (ih hsum).append [n]
      | some sum =>
        rw [doubleSum?_concat, hsum] at hnone
        exact ⟨first, n, [], sum, rfl, hsum, (bind_add?_eq_none_iff sum n).1 hnone⟩
  · rintro ⟨first, n, rest, sum, rfl, hsum, hlimit⟩
    have hstep : doubleSum? (first ++ [n]) = none := by
      rw [doubleSum?_concat, hsum]
      exact (bind_add?_eq_none_iff sum n).2 hlimit
    have hall := doubleSum?_append_of_none hstep rest
    rwa [List.append_assoc, List.singleton_append] at hall

/-- **Whole numbers of 64 bits have a sum of doubles**, however many they are. -/
theorem doubleSum?_whole {ns : List Number} (h : ∀ n ∈ ns, ∃ i, n = .int i ∧ i.natAbs ≤ 2 ^ 64) :
    ∃ d, doubleSum? ns = some d := by
  obtain ⟨vs, rfl⟩ : ns ∈ Set.range (List.map Number.int) := by
    rw [Set.range_list_map]
    intro n hn
    obtain ⟨i, rfl, -⟩ := h n hn
    exact ⟨i, rfl⟩
  refine doubleSum?_int fun v hv => ?_
  obtain ⟨i, hi, hbits⟩ := h _ (List.mem_map_of_mem hv)
  cases hi
  exact hbits

/-- Numbers with an exact sum are signed words. -/
theorem fit_of_mem_exactSum? {ns : List Number} {start total : Int}
    (h : exactSum? start ns = some total) : ∀ n ∈ ns, ∃ i, n = .int i ∧ FitsWord i := by
  induction ns generalizing start with
  | nil => nofun
  | cons n rest ih =>
    cases n with
    | double d => cases h
    | int v =>
      by_cases hv : FitsWord v
      · rw [exactSum?_cons hv, Option.ite_none_right_eq_some] at h
        exact List.forall_mem_cons.2 ⟨⟨v, rfl, hv⟩, ih h.2⟩
      · have hsigned : (Number.int v).signed? = none := if_neg hv
        rw [exactSum?, hsigned] at h
        cases h

/-- So numbers with an exact sum have a sum of doubles as well. -/
theorem doubleSum?_of_exactSum? {ns : List Number} {total : Int} (h : exactSum? 0 ns = some total) :
    ∃ d, doubleSum? ns = some d := by
  refine doubleSum?_whole fun n hn => ?_
  obtain ⟨i, hi, hfit⟩ := fit_of_mem_exactSum? h n hn
  exact ⟨i, hi, hfit.natAbs_le⟩

/-! ## The answer -/

theorem Json.ofDouble?_eq_null_iff (d : Option Double) : Json.ofDouble? d = .null ↔ d = none := by
  cases d with
  | none => exact iff_of_true rfl rfl
  | some d => exact iff_of_false nofun (Option.some_ne_none d)

theorem sumOf_eq_null_iff (ns : List Number) : sumOf ns = .null ↔ doubleSum? ns = none := by
  unfold sumOf
  cases hexact : exactSum? 0 ns with
  | none => exact Json.ofDouble?_eq_null_iff _
  | some total =>
    obtain ⟨d, hd⟩ := doubleSum?_of_exactSum? hexact
    rw [hd]
    exact iff_of_false nofun (Option.some_ne_none d)

theorem averageOf_eq_null_iff {ns : List Number} (hne : ns ≠ []) :
    averageOf ns = .null ↔ doubleSum? ns = none := by
  unfold averageOf
  rw [Json.ofDouble?_eq_null_iff]
  cases doubleSum? ns with
  | none => exact iff_of_true rfl rfl
  | some d =>
    obtain ⟨q, hq⟩ := d.divCount?_isSome (List.length_pos_of_ne_nil hne)
    rw [Option.bind_some, hq]
    exact iff_of_false (Option.some_ne_none q) (Option.some_ne_none d)

/-- **The aggregates that are null**, by the numbers they are computed of. -/
theorem AggregateKind.over_eq_null_iff (kind : AggregateKind) (ns : List Number) :
    kind.over ns = .null ↔ ns = [] ∨ (kind = .sum ∨ kind = .avg) ∧ LeavesRange ns := by
  rw [← doubleSum?_eq_none_iff]
  cases ns with
  | nil => exact iff_of_true rfl (.inl rfl)
  | cons n rest =>
    have hne : n :: rest ≠ [] := List.cons_ne_nil n rest
    cases kind with
    | sum =>
      have hover : AggregateKind.over .sum (n :: rest) = sumOf (n :: rest) := rfl
      simp [hover, sumOf_eq_null_iff, hne]
    | avg =>
      have hover : AggregateKind.over .avg (n :: rest) = averageOf (n :: rest) := rfl
      simp [hover, averageOf_eq_null_iff hne, hne]
    | min => exact iff_of_false nofun (by simp)
    | max => exact iff_of_false nofun (by simp)

/-- **An aggregate that is not null** is a number. -/
theorem AggregateKind.over_number (kind : AggregateKind) {ns : List Number}
    (h : kind.over ns ≠ .null) : ∃ n, kind.over ns = .number n := by
  have hdouble : ∀ d, Json.ofDouble? d ≠ .null → ∃ n, Json.ofDouble? d = .number n := by
    intro d hd
    cases d with
    | none => exact absurd rfl hd
    | some d => exact ⟨.double d, rfl⟩
  cases ns with
  | nil => exact absurd rfl h
  | cons n rest =>
    cases kind with
    | sum =>
      change sumOf (n :: rest) ≠ .null at h
      change ∃ m, sumOf (n :: rest) = .number m
      unfold sumOf at *
      split at h
      · exact ⟨_, rfl⟩
      · exact hdouble _ h
    | avg => exact hdouble _ h
    | min => exact ⟨_, rfl⟩
    | max => exact ⟨_, rfl⟩

/-- **No row holds a number** in a field, of the rows that a query is about. -/
def Query.NoNumbers (q : Query) (field : String) (s : Store) : Prop :=
  ∀ r ∈ (s.table q.model).matching q.filter, ∀ n, r.data.get? field ≠ some (.number n)

theorem Query.numbers_eq_nil_iff (q : Query) (field : String) (s : Store) :
    q.numbers field s = [] ↔ q.NoNumbers field s := by
  unfold numbers numbersIn NoNumbers
  rw [List.filterMap_eq_nil_iff]
  refine forall₂_congr fun r _ => ?_
  split
  · rename_i n hn
    exact iff_of_false (Option.some_ne_none n) fun h => h n hn
  · rename_i hother
    exact iff_of_true rfl hother

namespace Store

/-- **The aggregates that are null.** An aggregate is null over no numbers, and `sum` and `avg` are
null as well over numbers whose doubles leave the range when they are added up from row to row. Any
other aggregate is a number. So `min` and `max` are null over no numbers only, and over whole numbers
of 64 bits all aggregates are, also where their sum does not fit a word. -/
theorem aggregate_null_iff (now : Timestamp) (s : Store) {q : Query}
    (hop : q.operation = .aggregate) {kind : AggregateKind} {field : String}
    (ha : q.aggregation = some ⟨kind, field⟩) :
    ∃ v, (s.execute now q).1 = .ok (.value v) ∧
      (v = .null ↔ q.NoNumbers field s ∨
        (kind = .sum ∨ kind = .avg) ∧ LeavesRange (q.numbers field s)) ∧
      (v ≠ .null → ∃ n, v = .number n) ∧
      (kind = .min ∨ kind = .max → (v = .null ↔ q.NoNumbers field s)) ∧
      ((∀ n ∈ q.numbers field s, ∃ i, n = .int i ∧ i.natAbs ≤ 2 ^ 64) →
        (v = .null ↔ q.NoNumbers field s)) := by
  have hnull := kind.over_eq_null_iff (q.numbers field s)
  rw [q.numbers_eq_nil_iff field s] at hnull
  refine ⟨_, answer_aggregate now hop ha rfl, hnull, kind.over_number, fun hkind => ?_,
    fun hwhole => ?_⟩
  · rw [hnull]
    refine or_iff_left fun hsum => ?_
    rcases hkind with rfl | rfl <;> simp at hsum
  · rw [hnull]
    refine or_iff_left fun hsum => ?_
    have hnone := (doubleSum?_eq_none_iff _).2 hsum.2
    obtain ⟨d, hd⟩ := doubleSum?_whole hwhole
    rw [hd] at hnone
    cases hnone

/-- Views that do not fit a word when they are added up have a sum. -/
theorem sum_of_great_views_known :
    let views := [0x7FFFFFFFFFFFFFFF, 0x7FFFFFFFFFFFFFFF, 0xFFFFFFFFFFFFFFFF]
    let s := viewed views
    ¬ (ofViews .sum).NoNumbers "views" s ∧
      ∃ n, (s.execute dayOne (ofViews .sum)).1 = .ok (.value (.number n)) := by
  intro views s
  have hnumbers : (ofViews .sum).numbers "views" s = views.map .int := rfl
  have hsome : ¬ (ofViews .sum).NoNumbers "views" s := by
    rw [← Query.numbers_eq_nil_iff, hnumbers]
    exact List.cons_ne_nil _ _
  have hwhole : ∀ n ∈ (ofViews .sum).numbers "views" s, ∃ i, n = .int i ∧ i.natAbs ≤ 2 ^ 64 := by
    have hbits : ∀ i ∈ views, i.natAbs ≤ 2 ^ 64 := by decide
    rw [hnumbers, List.forall_mem_map]
    exact fun i hi => ⟨i, rfl, hbits i hi⟩
  obtain ⟨v, hv, -, hnumber, -, hnull⟩ := aggregate_null_iff dayOne s
    (rfl : (ofViews .sum).operation = .aggregate) rfl
  obtain ⟨n, rfl⟩ := hnumber fun h => hsome ((hnull hwhole).1 h)
  exact ⟨hsome, n, hv⟩

/-- Posts with given ratings, made in this order. -/
def rated (ratings : List Number) : Store :=
  ratings.foldl (fun s n => (s.execute dayOne (.create .post [("rating", .number n)])).2) .empty

/-- An aggregate over the ratings of all posts. -/
def ofRatings (kind : AggregateKind) : Query :=
  { Query.new .post .aggregate with aggregation := some ⟨kind, "rating"⟩ }

/-- The double nearest to `10 ^ 308`. -/
def vast : Double := ⟨false, 0x11ccf385ebc8a0, 2045, by decide⟩

/-- **Numbers whose average is null.** Twice the rating `10 ^ 308` leaves the range of doubles, so
neither sum nor average is known, though the average is `10 ^ 308` again. The greatest rating is. -/
theorem average_missing :
    let ratings := [.double vast, .double vast]
    let s := rated ratings
    s.Reachable ∧ (ofRatings .avg).numbers "rating" s = ratings ∧
      (s.execute dayOne (ofRatings .avg)).1 = .ok (.value .null) ∧
      (s.execute dayOne (ofRatings .sum)).1 = .ok (.value .null) ∧
      (s.execute dayOne (ofRatings .max)).1 = .ok (.value (.number (.double vast))) := by
  intro ratings s
  have hreachable : s.Reachable :=
    List.foldlRecOn ratings _ Reachable.empty fun _ h _ _ => .execute _ _ h
  have hnumbers : ∀ kind, (ofRatings kind).numbers "rating" s = ratings := fun _ => rfl
  have hnone : doubleSum? ratings = none := by decide +kernel
  have havg : AggregateKind.over .avg ratings = .null :=
    (averageOf_eq_null_iff (List.cons_ne_nil _ _)).2 hnone
  have hsum : AggregateKind.over .sum ratings = .null := (sumOf_eq_null_iff ratings).2 hnone
  have hmax : AggregateKind.over .max ratings = .number (.double vast) := by
    simp [ratings, AggregateKind.over, extremeOf, extremeFrom]
  refine ⟨hreachable, hnumbers .avg, ?_, ?_, ?_⟩
  · rw [answer_aggregate dayOne rfl rfl (hnumbers .avg), havg]
  · rw [answer_aggregate dayOne rfl rfl (hnumbers .sum), hsum]
  · rw [answer_aggregate dayOne rfl rfl (hnumbers .max), hmax]

end Store

end RowGuard
