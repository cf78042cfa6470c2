import RowGuard.Proofs.Json.Same
import RowGuard.Proofs.Keyed

/-!
# Values compared by value

A database takes numbers by their value at every depth and objects as maps. Filters take numbers by
value only where nothing is around them: inside an array or an object, a whole number differs from a
double of its value. So the two comparisons of values part only over numbers of different kinds.

* `Json.equal`: equality by value at every depth
* `Json.numbers`: the numbers in a value, `Json.kinds`: of which kinds they are
* `Json.same_iff`: equality of structure is equality by value with numbers of the same kinds
* `Json.agrees_iff_equal`: agreement is equality by value, if numbers inside are of the same kinds
-/

set_option autoImplicit false

namespace RowGuard

namespace Number

/-- The exact value in units. -/
def exactUnits : Number → Int
  | int n => n * unitsPerOne
  | double d => d.units

/-- Whether a double has the value. -/
def Exact (n : Number) : Prop := n.units = n.exactUnits

instance (n : Number) : Decidable n.Exact := inferInstanceAs (Decidable (_ = _))

/-- Whether the number is of the kind of whole numbers. -/
def isInt : Number → Bool
  | int _ => true
  | double _ => false

theorem exactUnits_int {m n : Int} : (int m).exactUnits = (int n).exactUnits ↔ m = n :=
  Int.mul_eq_mul_right_iff (by decide)

/-- Equality of structure is equality by value between numbers of one kind. -/
theorem same_iff (a b : Number) :
    a.same b = true ↔ a.exactUnits = b.exactUnits ∧ a.isInt = b.isInt := by
  cases a with
  | int m =>
    cases b with
    | int n => rw [exactUnits_int, same, beq_iff_eq]; exact (and_iff_left rfl).symm
    | double e => exact iff_of_false Bool.false_ne_true fun h => Bool.false_ne_true h.2.symm
  | double d =>
    cases b with
    | int n => exact iff_of_false Bool.false_ne_true fun h => Bool.false_ne_true h.2
    | double e => rw [same, beq_iff_eq]; exact (and_iff_left rfl).symm

/-- **Numbers with a double each** agree when they are equal by value. -/
theorem agrees_iff_of_exact {a b : Number} (ha : a.Exact) (hb : b.Exact) :
    a.agrees b = true ↔ a.exactUnits = b.exactUnits := by
  have hunits : (a.units == b.units) = true ↔ a.exactUnits = b.exactUnits := by
    rw [beq_iff_eq, ha, hb]
  unfold agrees
  split
  · rename_i x y hx hy
    -- only a whole number is a signed whole number
    cases a with
    | double d => cases hx
    | int m =>
      cases b with
      | double e => cases hy
      | int n =>
        obtain ⟨-, hx⟩ := Option.ite_none_right_eq_some.1 hx
        obtain ⟨-, hy⟩ := Option.ite_none_right_eq_some.1 hy
        rw [← Option.some.inj hx, ← Option.some.inj hy, beq_iff_eq, exactUnits_int]
  · exact hunits

end Number

namespace Json

/-! ## Equality by value -/

mutual

/-- **Equality by value**: numbers by value at every depth, arrays element by element, objects as
maps, other values of one kind only. -/
def equal : Json → Json → Bool
  | null, null => true
  | bool a, bool b => a == b
  | number a, number b => a.exactUnits == b.exactUnits
  | string a, string b => a == b
  | array a, array b => equalList a b
  | object a, object b => a.length == b.length && equalFields a b
  | _, _ => false

/-- `equal`, element by element. -/
def equalList : List Json → List Json → Bool
  | [], [] => true
  | a :: as, b :: bs => equal a b && equalList as bs
  | _, _ => false

/-- Whether each field is a field of the other object, with an equal value there. -/
def equalFields : List (String × Json) → Fields → Bool
  | [], _ => true
  | (k, a) :: as, bs =>
    (match bs.get? k with
      | some b => equal a b
      | none => false) && equalFields as bs

end

mutual

/-- **The numbers in a value**, at any depth, in order. -/
def numbers : Json → List Number
  | number n => [n]
  | array elems => numbersList elems
  | object fields => numbersFields fields
  | _ => []

/-- `numbers`, element by element. -/
def numbersList : List Json → List Number
  | [] => []
  | v :: rest => numbers v ++ numbersList rest

/-- `numbers`, field by field. -/
def numbersFields : List (String × Json) → List Number
  | [] => []
  | (_, v) :: rest => numbers v ++ numbersFields rest

end

/-- The kinds of the numbers in a value. -/
def kinds (v : Json) : List Bool := v.numbers.map Number.isInt

/-- Whether every number in a value has a double. -/
def Exact (v : Json) : Prop := ∀ n ∈ v.numbers, n.Exact

instance (v : Json) : Decidable v.Exact := inferInstanceAs (Decidable (∀ n ∈ v.numbers, n.Exact))

mutual

/-- **The fields of every object in a value ascend**, so that there is one of each name. -/
def Ascending : Json → Prop
  | array elems => AscendingList elems
  | object fields => Keyed.Ascending fields ∧ AscendingFields fields
  | _ => True

/-- `Ascending`, element by element. -/
def AscendingList : List Json → Prop
  | [] => True
  | v :: rest => Ascending v ∧ AscendingList rest

/-- `Ascending`, field by field. -/
def AscendingFields : List (String × Json) → Prop
  | [] => True
  | (_, v) :: rest => Ascending v ∧ AscendingFields rest

end

/-! ## Fields of the same names -/

/-- Fields before which another one stands are looked up behind it. -/
theorem equalFields_skip {k : String} {y : Json} {as : List (String × Json)} {bs : Fields}
    (h : ∀ p ∈ as, k < p.1) : equalFields as ((k, y) :: bs) = equalFields as bs := by
  induction as with
  | nil => rfl
  | cons p rest ih =>
    obtain ⟨l, v⟩ := p
    have hne : l ≠ k := fun he => Std.lt_irrefl (he ▸ h (l, v) List.mem_cons_self)
    rw [equalFields, equalFields, Keyed.get?, if_neg hne,
      ih fun q hq => h q (List.mem_cons_of_mem _ hq)]

/-- Of two objects with fields of the same names, the first fields are compared with each other. -/
theorem equalFields_cons {k : String} {x y : Json} {as bs : List (String × Json)}
    (h : Keyed.Ascending ((k, x) :: as)) :
    equalFields ((k, x) :: as) ((k, y) :: bs) = (equal x y && equalFields as bs) := by
  rw [equalFields, Keyed.get?, if_pos rfl, equalFields_skip (List.pairwise_cons.1 h).1]

theorem isSome_of_equalFields {as : List (String × Json)} {bs : Fields}
    (h : equalFields as bs = true) : ∀ p ∈ as, (bs.get? p.1).isSome = true := by
  induction as with
  | nil => exact nofun
  | cons q rest ih =>
    obtain ⟨k, x⟩ := q
    rw [equalFields, Bool.and_eq_true] at h
    refine List.forall_mem_cons.2 ⟨?_, ih h.2⟩
    cases hk : Keyed.get? k bs with
    | none => rw [hk] at h; exact absurd h.1 Bool.false_ne_true
    | some w => rfl

/-- **Objects are equal as maps** when they have fields of the same names, with equal values. -/
theorem equal_object_iff {as bs : List (String × Json)} (ha : Keyed.Ascending as)
    (hb : Keyed.Ascending bs) : equal (object as) (object bs) = true ↔
      as.map Prod.fst = bs.map Prod.fst ∧ equalFields as bs = true := by
  rw [equal, Bool.and_eq_true, beq_iff_eq]
  constructor
  · rintro ⟨hlength, hfields⟩
    exact ⟨ha.keys_eq hb hlength (isSome_of_equalFields hfields), hfields⟩
  · rintro ⟨hnames, hfields⟩
    have hlength := congrArg List.length hnames
    rw [List.length_map, List.length_map] at hlength
    exact ⟨hlength, hfields⟩

theorem names_of_sameFields {as bs : List (String × Json)} (h : sameFields as bs = true) :
    as.map Prod.fst = bs.map Prod.fst := by
  match as, bs with
  | [], [] => rfl
  | [], _ :: _ | _ :: _, [] => cases h
  | (k, x) :: as, (l, y) :: bs =>
    simp only [sameFields, Bool.and_eq_true, beq_iff_eq] at h
    rw [List.map_cons, List.map_cons, h.1.1, names_of_sameFields h.2]

/-! ## Equality by value and equality of structure -/

mutual

/-- Equal values have as many numbers. -/
theorem length_numbers {a b : Json} (ha : a.Ascending) (hb : b.Ascending)
    (h : a.equal b = true) : a.numbers.length = b.numbers.length := by
  cases a with
  | number x =>
    cases b with
    | number y => rfl
    | _ => cases h
  | array xs =>
    cases b with
    | array ys => exact length_numbersList ha hb h
    | _ => cases h
  | object xs =>
    cases b with
    | object ys =>
      obtain ⟨hnames, hfields⟩ := (equal_object_iff ha.1 hb.1).1 h
      exact length_numbersFields hnames ha.1 ha.2 hb.2 hfields
    | _ => cases h
  | null | bool _ | string _ => cases b <;> first | rfl | cases h

/-- `length_numbers`, element by element. -/
theorem length_numbersList {xs ys : List Json} (ha : AscendingList xs) (hb : AscendingList ys)
    (h : equalList xs ys = true) : (numbersList xs).length = (numbersList ys).length := by
  match xs, ys with
  | [], [] => rfl
  | [], _ :: _ | _ :: _, [] => cases h
  | x :: xs, y :: ys =>
    rw [equalList, Bool.and_eq_true] at h
    rw [numbersList, numbersList, List.length_append, List.length_append,
      length_numbers ha.1 hb.1 h.1, length_numbersList ha.2 hb.2 h.2]

/-- `length_numbers`, field by field. -/
theorem length_numbersFields {xs ys : List (String × Json)}
    (hnames : xs.map Prod.fst = ys.map Prod.fst) (hup : Keyed.Ascending xs)
    (ha : AscendingFields xs) (hb : AscendingFields ys) (h : equalFields xs ys = true) :
    (numbersFields xs).length = (numbersFields ys).length := by
  match xs, ys with
  | [], [] => rfl
  | [], _ :: _ | _ :: _, [] => cases hnames
  | (k, x) :: xs, (l, y) :: ys =>
    obtain ⟨(rfl : k = l), hothers⟩ := List.cons.inj hnames
    rw [equalFields_cons hup, Bool.and_eq_true] at h
    rw [numbersFields, numbersFields, List.length_append, List.length_append,
      length_numbers ha.1 hb.1 h.1,
      length_numbersFields hothers (List.pairwise_cons.1 hup).2 ha.2 hb.2 h.2]

end

/-- Kinds are the same when they are part by part, if the first parts are known to have as many
numbers. -/
theorem kinds_append_iff {ns ms ns' ms' : List Number} {P Q : Prop}
    (h : P → ns.length = ms.length) :
    (P ∧ ns.map Number.isInt = ms.map Number.isInt) ∧
        (Q ∧ ns'.map Number.isInt = ms'.map Number.isInt) ↔
      (P ∧ Q) ∧ (ns ++ ns').map Number.isInt = (ms ++ ms').map Number.isInt := by
  rw [List.map_append, List.map_append]
  constructor
  · rintro ⟨⟨hp, hkinds⟩, hq, hkinds'⟩
    exact ⟨⟨hp, hq⟩, by rw [hkinds, hkinds']⟩
  · rintro ⟨⟨hp, hq⟩, hkinds⟩
    have hlength : (ns.map Number.isInt).length = (ms.map Number.isInt).length := by
      rw [List.length_map, List.length_map, h hp]
    obtain ⟨hkinds, hkinds'⟩ := List.append_inj hkinds hlength
    exact ⟨⟨hp, hkinds⟩, hq, hkinds'⟩

mutual

/-- **Equality of structure is equality by value** with numbers of the same kinds. -/
theorem same_iff {a b : Json} (ha : a.Ascending) (hb : b.Ascending) :
    a.same b = true ↔ a.equal b = true ∧ a.kinds = b.kinds := by
  cases a with
  | number x =>
    cases b with
    | number y =>
      have hkinds : (number x).kinds = (number y).kinds ↔ x.isInt = y.isInt := List.singleton_inj
      rw [hkinds, equal, beq_iff_eq]
      exact Number.same_iff x y
    | _ => exact ⟨nofun, fun h => nomatch h.1⟩
  | array xs =>
    cases b with
    | array ys => exact sameList_iff ha hb
    | _ => exact ⟨nofun, fun h => nomatch h.1⟩
  | object xs =>
    cases b with
    | object ys =>
      rw [equal_object_iff ha.1 hb.1, and_assoc]
      show sameFields xs ys = true ↔ _
      constructor
      · intro h
        have hnames := names_of_sameFields h
        exact ⟨hnames, (sameFields_iff hnames ha.1 ha.2 hb.2).1 h⟩
      · rintro ⟨hnames, h⟩
        exact (sameFields_iff hnames ha.1 ha.2 hb.2).2 h
    | _ => exact ⟨nofun, fun h => nomatch h.1⟩
  | null | bool _ | string _ =>
    -- there are no numbers, and one comparison of the values
    cases b <;> first | exact (and_iff_left rfl).symm | exact ⟨nofun, fun h => nomatch h.1⟩

/-- `same_iff`, element by element. -/
theorem sameList_iff {xs ys : List Json} (ha : AscendingList xs) (hb : AscendingList ys) :
    sameList xs ys = true ↔ equalList xs ys = true ∧
      (numbersList xs).map Number.isInt = (numbersList ys).map Number.isInt := by
  match xs, ys with
  | [], [] => exact (and_iff_left rfl).symm
  | [], _ :: _ | _ :: _, [] => exact ⟨nofun, fun h => nomatch h.1⟩
  | x :: xs, y :: ys =>
    rw [sameList, equalList, Bool.and_eq_true, Bool.and_eq_true, same_iff ha.1 hb.1,
      sameList_iff ha.2 hb.2, numbersList, numbersList]
    exact kinds_append_iff (length_numbers ha.1 hb.1)

/-- `same_iff`, field by field. -/
theorem sameFields_iff {xs ys : List (String × Json)}
    (hnames : xs.map Prod.fst = ys.map Prod.fst) (hup : Keyed.Ascending xs)
    (ha : AscendingFields xs) (hb : AscendingFields ys) :
    sameFields xs ys = true ↔ equalFields xs ys = true ∧
      (numbersFields xs).map Number.isInt = (numbersFields ys).map Number.isInt := by
  match xs, ys with
  | [], [] => exact (and_iff_left rfl).symm
  | [], _ :: _ | _ :: _, [] => cases hnames
  | (k, x) :: xs, (l, y) :: ys =>
    obtain ⟨(rfl : k = l), hothers⟩ := List.cons.inj hnames
    have hrest := sameFields_iff hothers (List.pairwise_cons.1 hup).2 ha.2 hb.2
    rw [sameFields, equalFields_cons hup, beq_self_eq_true, Bool.true_and, Bool.and_eq_true,
      Bool.and_eq_true, same_iff ha.1 hb.1, hrest, numbersFields, numbersFields]
    exact kinds_append_iff (length_numbers ha.1 hb.1)

end

/-! ## Agreement -/

/-- Two numbers, or two values with numbers of the same kinds. -/
def Alike (a b : Json) : Prop := (∃ m n, a = number m ∧ b = number n) ∨ a.kinds = b.kinds

/-- **Agreement is equality by value** between two numbers and between values with numbers of the
same kinds. -/
theorem agrees_iff_equal {a b : Json} (ha : a.Ascending) (hb : b.Ascending) (hexact : a.Exact)
    (hexact' : b.Exact) : a.agrees b = true ↔ a.equal b = true ∧ a.Alike b := by
  by_cases hnumbers : ∃ m n, a = number m ∧ b = number n
  · have halike : (a.Alike b) := .inl hnumbers
    obtain ⟨m, n, rfl, rfl⟩ := hnumbers
    have hm : m.Exact := hexact m (List.mem_singleton_self m)
    have hn : n.Exact := hexact' n (List.mem_singleton_self n)
    rw [equal, beq_iff_eq, and_iff_left halike]
    exact Number.agrees_iff_of_exact hm hn
  · have hsame : a.agrees b = a.same b := by
      cases a with
      | number m => cases b with
        | number n => exact absurd ⟨m, n, rfl, rfl⟩ hnumbers
        | _ => rfl
      | _ => rfl
    rw [hsame, same_iff ha hb, Alike, or_iff_right hnumbers]

end Json

end RowGuard
