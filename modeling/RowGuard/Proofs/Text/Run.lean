import Mathlib.Data.List.TakeWhile

/-!
# Runs of characters

The characters of one kind at the start of a text are a run: all of them are of the kind, and what
comes after them does not start with another one.

* `run_iff`: a run and what comes after it
-/

set_option autoImplicit false

namespace RowGuard

variable {α : Type} {p : α → Bool} {as run rest : List α}

theorem takeWhile_of_run (hrun : ∀ a ∈ run, p a = true) (hrest : ∀ a ∈ rest.head?, p a = false) :
    (run ++ rest).takeWhile p = run := by
  rw [List.takeWhile_append_of_pos hrun]
  cases rest with
  | nil => rw [List.takeWhile_nil, List.append_nil]
  | cons a rest => rw [List.takeWhile_cons_of_neg (by simp [hrest a rfl]), List.append_nil]

theorem dropWhile_of_run (hrun : ∀ a ∈ run, p a = true) (hrest : ∀ a ∈ rest.head?, p a = false) :
    (run ++ rest).dropWhile p = rest := by
  rw [List.dropWhile_append_of_pos hrun]
  cases rest with
  | nil => rfl
  | cons a rest => exact List.dropWhile_cons_of_neg (by simp [hrest a rfl])

/-- What comes after a run starts with something else. -/
theorem head?_dropWhile {a : α} (h : a ∈ (as.dropWhile p).head?) : p a = false := by
  have hhead := List.head?_dropWhile_not p as
  rw [Option.mem_def] at h
  rwa [h] at hhead

/-- **A run** and what comes after it. -/
theorem run_iff : as.takeWhile p = run ∧ as.dropWhile p = rest ↔
    as = run ++ rest ∧ (∀ a ∈ run, p a = true) ∧ ∀ a ∈ rest.head?, p a = false := by
  constructor
  · rintro ⟨rfl, rfl⟩
    exact ⟨List.takeWhile_append_dropWhile.symm, fun a => List.mem_takeWhile_imp,
      fun a => head?_dropWhile⟩
  · rintro ⟨rfl, hrun, hrest⟩
    exact ⟨takeWhile_of_run hrun hrest, dropWhile_of_run hrun hrest⟩

/-- A text starts with a run, perhaps an empty one. -/
theorem exists_run (p : α → Bool) (as : List α) : ∃ run rest,
    as.takeWhile p = run ∧ as.dropWhile p = rest ∧
      as = run ++ rest ∧ (∀ a ∈ run, p a = true) ∧ ∀ a ∈ rest.head?, p a = false :=
  ⟨_, _, rfl, rfl, run_iff.1 ⟨rfl, rfl⟩⟩

end RowGuard
