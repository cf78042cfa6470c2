/-!
# Steps that may fail

A computation of two steps succeeds just if both steps do, one on the result of the other.
-/

set_option autoImplicit false

namespace RowGuard

variable {ε α β : Type} {x : Except ε α} {b : β}

/-- Two steps, the second one on the result of the first. -/
theorem bind_eq_ok_iff {f : α → Except ε β} : x >>= f = .ok b ↔ ∃ a, x = .ok a ∧ f a = .ok b := by
  cases x with
  | error e => exact iff_of_false nofun nofun
  | ok a => simp [bind, Except.bind]

/-- A step whose result is changed. -/
theorem map_eq_ok_iff {f : α → β} : x.map f = .ok b ↔ ∃ a, x = .ok a ∧ f a = b := by
  cases x with
  | error e => exact iff_of_false nofun nofun
  | ok a => simp [Except.map]

/-- Nothing fails in a list if it fails for no element. -/
theorem forM_eq_ok {check : α → Except ε Unit} {as : List α} (h : ∀ a ∈ as, check a = .ok ()) :
    as.forM check = .ok () := by
  induction as with
  | nil => rfl
  | cons a rest ih =>
    have hrest := ih fun a ha => h a (List.mem_cons_of_mem _ ha)
    exact bind_eq_ok_iff.2 ⟨(), h a List.mem_cons_self, hrest⟩

end RowGuard
