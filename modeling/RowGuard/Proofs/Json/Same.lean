import RowGuard.Json.Basic

/-!
# Values of equal structure compare alike

Repeated parts of a filter are recognised by `Json.same`, but fields are compared by `Json.agrees`.
Leaving a part out is harmless because the two fit together: values of equal structure agree with
the same values.

* `Json.same_self`, `Json.same_right`: equality of structure is reflexive, and values of equal
  structure have equal structure with the same values
* `Json.agrees_right`: and agree with the same values
-/

set_option autoImplicit false

namespace RowGuard

namespace Number

/-- Only whole numbers of one value, or doubles of one value, have equal structure. -/
theorem same_cases {a b : Number} (h : a.same b = true) :
    (∃ n, a = .int n ∧ b = .int n) ∨ ∃ d e, a = .double d ∧ b = .double e ∧ d.units = e.units := by
  cases a with
  | int n =>
    cases b with
    | int m => exact .inl ⟨n, rfl, by rw [eq_of_beq h]⟩
    | double e => cases h
  | double d =>
    cases b with
    | int m => cases h
    | double e => exact .inr ⟨d, e, rfl, rfl, eq_of_beq h⟩

theorem same_self (a : Number) : a.same a = true := by
  cases a with
  | int n => exact beq_self_eq_true n
  | double d => exact beq_self_eq_true d.units

theorem same_right {a b : Number} (h : a.same b = true) (c : Number) : c.same a = c.same b := by
  obtain ⟨n, rfl, rfl⟩ | ⟨d, e, rfl, rfl, hu⟩ := same_cases h
  · rfl
  · cases c with
    | int m => rfl
    | double x => simp only [same, hu]

theorem agrees_right {a b : Number} (h : a.same b = true) (c : Number) :
    c.agrees a = c.agrees b := by
  obtain ⟨n, rfl, rfl⟩ | ⟨d, e, rfl, rfl, hu⟩ := same_cases h
  · rfl
  -- a double is never compared as a whole number, so only its units count
  · simp only [agrees, signed?, units, hu]

end Number

namespace Json

mutual

/-- Every value is of its own structure. -/
theorem same_self (a : Json) : a.same a = true := by
  cases a with
  | null => rfl
  | bool b => exact beq_self_eq_true b
  | number n => exact n.same_self
  | string s => exact beq_self_eq_true s
  | array elems => exact sameList_self elems
  | object fields => exact sameFields_self fields

/-- `same_self`, element by element. -/
theorem sameList_self (elems : List Json) : sameList elems elems = true := by
  match elems with
  | [] => rfl
  | v :: rest => rw [sameList, same_self v, sameList_self rest]; rfl

/-- `same_self`, field by field. -/
theorem sameFields_self (fields : List (String × Json)) : sameFields fields fields = true := by
  match fields with
  | [] => rfl
  | (k, v) :: rest => rw [sameFields, beq_self_eq_true, same_self v, sameFields_self rest]; rfl

end

mutual

/-- **Values of equal structure** have equal structure with the same values. -/
theorem same_right {a b : Json} (h : a.same b = true) (c : Json) : c.same a = c.same b := by
  cases a with
  | null => cases b <;> first | rfl | cases h
  | bool x =>
    cases b with
    | bool y => rw [eq_of_beq h]
    | _ => cases h
  | number x =>
    cases b with
    | number y => cases c with
      | number z => exact Number.same_right h z
      | _ => rfl
    | _ => cases h
  | string x =>
    cases b with
    | string y => rw [eq_of_beq h]
    | _ => cases h
  | array xs =>
    cases b with
    | array ys => cases c with
      | array zs => exact sameList_right h zs
      | _ => rfl
    | _ => cases h
  | object xs =>
    cases b with
    | object ys => cases c with
      | object zs => exact sameFields_right h zs
      | _ => rfl
    | _ => cases h

/-- `same_right`, element by element. -/
theorem sameList_right {xs ys : List Json} (h : sameList xs ys = true) (zs : List Json) :
    sameList zs xs = sameList zs ys := by
  match xs, ys, zs with
  | [], [], _ => rfl
  | [], _ :: _, _ => cases h
  | _ :: _, [], _ => cases h
  | _ :: _, _ :: _, [] => rfl
  | x :: xs, y :: ys, z :: zs =>
    simp only [sameList, Bool.and_eq_true] at h
    simp only [sameList, same_right h.1 z, sameList_right h.2 zs]

/-- `same_right`, field by field. -/
theorem sameFields_right {xs ys : List (String × Json)} (h : sameFields xs ys = true)
    (zs : List (String × Json)) : sameFields zs xs = sameFields zs ys := by
  match xs, ys, zs with
  | [], [], _ => rfl
  | [], _ :: _, _ => cases h
  | _ :: _, [], _ => cases h
  | _ :: _, _ :: _, [] => rfl
  | (k, x) :: xs, (l, y) :: ys, (m, z) :: zs =>
    simp only [sameFields, Bool.and_eq_true, beq_iff_eq] at h
    obtain ⟨⟨rfl, hv⟩, hrest⟩ := h
    simp only [sameFields, same_right hv z, sameFields_right hrest zs]

end

/-- **Values of equal structure agree** with the same values. -/
theorem agrees_right {a b : Json} (h : a.same b = true) (c : Json) : c.agrees a = c.agrees b := by
  cases a with
  | number x =>
    cases b with
    | number y => cases c with
      | number z => exact Number.agrees_right h z
      | _ => rfl
    | _ => cases h
  | null => cases b <;> first | rfl | cases h
  | _ =>
    -- unless both sides are numbers, agreement is equality of structure
    have hs := same_right h c
    cases b <;> first | cases h | cases c <;> exact hs

end Json

end RowGuard
