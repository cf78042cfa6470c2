import Mathlib.Algebra.Group.Int.Defs
import RowGuard.Proofs.Number.Rounding

/-!
# Values that agree with an identifier

Rules compare a field with an identifier by `Json.agrees`, which takes numbers by value. Two signed
whole numbers are compared exactly, any other two as doubles. So the values that agree with an
identifier are the identifier itself and the other numbers of the double that it rounds to.

* `Json.agrees_ofId_iff`: the values that agree with an identifier
* `Json.agrees_two_iff`: the values that agree with two identifiers
* `Json.id_eq_of_units`: identifiers below `2 ^ 53` have a double of their own
-/

set_option autoImplicit false

namespace RowGuard

/-- An identifier is a signed whole number. -/
theorem Number.signed?_toInt (id : Int64) : (Number.int id.toInt).signed? = some id.toInt := by
  have hlow := Int64.le_toInt id
  have hhigh := Int64.toInt_lt id
  exact if_pos ⟨by simpa using hlow, by simpa using hhigh⟩

/-- Two identifiers agree as values when they are the same. -/
theorem Json.agrees_ofId (a b : Int64) : (Json.ofId a).agrees (.ofId b) = (a == b) := by
  have hnumber : (Json.ofId a).agrees (.ofId b) = (Number.int a.toInt).agrees (.int b.toInt) := rfl
  rw [hnumber, Number.agrees, Number.signed?_toInt, Number.signed?_toInt, Bool.eq_iff_iff,
    beq_iff_eq, beq_iff_eq, Int64.toInt_inj]

/-- **The values that agree with an identifier**: itself as a whole number, and every other number
of the double that it rounds to. -/
theorem Json.agrees_ofId_iff (v : Json) (id : Int64) : v.agrees (.ofId id) = true ↔
    ∃ n, v = .number n ∧ (n.signed? = some id.toInt ∨
      n.signed? = none ∧ n.units = intUnits id.toInt) := by
  constructor
  · intro h
    cases v with
    | number n =>
      refine ⟨n, rfl, ?_⟩
      have hn : n.agrees (.int id.toInt) = true := h
      rw [Number.agrees, Number.signed?_toInt] at hn
      cases hs : n.signed? with
      | none => exact .inr ⟨rfl, by rw [hs] at hn; exact eq_of_beq hn⟩
      | some x => exact .inl (by rw [hs] at hn; rw [eq_of_beq hn])
    | null | bool _ | string _ | array _ | object _ => cases h
  · rintro ⟨n, rfl, hs | ⟨hs, hu⟩⟩
    · show n.agrees (.int id.toInt) = true
      rw [Number.agrees, Number.signed?_toInt, hs]
      exact beq_self_eq_true _
    · show n.agrees (.int id.toInt) = true
      rw [Number.agrees, Number.signed?_toInt, hs]
      exact beq_iff_eq.2 hu

/-- **A value of two identifiers** is no signed whole number, and both round to its double. -/
theorem Json.agrees_two_iff {a b : Int64} (hne : a ≠ b) (v : Json) :
    v.agrees (.ofId a) = true ∧ v.agrees (.ofId b) = true ↔
      ∃ n, v = .number n ∧ n.signed? = none ∧ n.units = intUnits a.toInt ∧
        n.units = intUnits b.toInt := by
  rw [agrees_ofId_iff, agrees_ofId_iff]
  constructor
  · rintro ⟨⟨n, rfl, ha⟩, ⟨m, hm, hb⟩⟩
    cases hm
    refine ⟨n, rfl, ?_⟩
    rcases ha with ha | ⟨ha, hua⟩
    · rcases hb with hb | ⟨hb, -⟩
      · -- a signed whole number is one identifier
        exact absurd (Int64.toInt_inj.1 (Option.some.inj (ha.symm.trans hb))) hne
      · exact nomatch ha.symm.trans hb
    · rcases hb with hb | ⟨-, hub⟩
      · exact nomatch ha.symm.trans hb
      · exact ⟨ha, hua, hub⟩
  · rintro ⟨n, rfl, hs, hua, hub⟩
    exact ⟨⟨n, rfl, .inr ⟨hs, hua⟩⟩, ⟨n, rfl, .inr ⟨hs, hub⟩⟩⟩

/-- Positive identifiers that round to one double are equal if one of them is below `2 ^ 53`. -/
theorem Json.id_eq_of_units {a b : Int64} (ha : 0 < a) (hb : 0 < b) (hlow : a.toInt < 2 ^ 53)
    (h : intUnits a.toInt = intUnits b.toInt) : a = b := by
  obtain ⟨m, hm⟩ := Int.eq_ofNat_of_zero_le (Int.le_of_lt (Int64.lt_iff_toInt_lt.1 ha))
  obtain ⟨n, hn⟩ := Int.eq_ofNat_of_zero_le (Int.le_of_lt (Int64.lt_iff_toInt_lt.1 hb))
  rw [hm] at hlow
  rw [hm, hn] at h
  have hsmall : m < 2 ^ 53 := by omega
  rw [← Int64.toInt_inj, hm, hn, intUnits_inj_of_lt hsmall h]

end RowGuard
