import RowGuard.Proofs.Text.Run
import RowGuard.Text.Blank

/-!
# Trimmed texts

Trimming takes off the blanks at both ends and nothing else: what is left stands between blanks in
the text, and neither starts nor ends with one. A text has only one such middle part.

* `Trims`: a text and its middle part
* `trimBlanks_eq_iff`: trimming comes to that part
-/

set_option autoImplicit false

namespace RowGuard

/-- **A text and what is left of it** when the blanks at its ends are taken off. -/
structure Trims (blank : Char → Prop) (cs core : List Char) : Prop where
  around : ∃ before after, cs = before ++ core ++ after ∧ (∀ c ∈ before, blank c) ∧
    ∀ c ∈ after, blank c
  first : ∀ c ∈ core.head?, ¬ blank c
  last : ∀ c ∈ core.getLast?, ¬ blank c

variable {cs core : List Char}

theorem Trims.mem {blank : Char → Prop} (h : Trims blank cs core) {c : Char} (hc : c ∈ core) :
    c ∈ cs := by
  obtain ⟨before, after, rfl, -, -⟩ := h.around
  simp [hc]

/-- Two notions of blanks that are the same on a text trim it alike. -/
theorem Trims.congr {blank blank' : Char → Prop} (h : ∀ c ∈ cs, blank c ↔ blank' c)
    (ht : Trims blank cs core) : Trims blank' cs core := by
  refine ⟨?_, ?_, ?_⟩
  · obtain ⟨before, after, rfl, hbefore, hafter⟩ := ht.around
    refine ⟨before, after, rfl, fun c hc => ?_, fun c hc => ?_⟩
    · exact (h c (by simp [hc])).1 (hbefore c hc)
    · exact (h c (by simp [hc])).1 (hafter c hc)
  · intro c hc hblank
    exact ht.first c hc ((h c (ht.mem (List.mem_of_mem_head? hc))).2 hblank)
  · intro c hc hblank
    exact ht.last c hc ((h c (ht.mem (List.mem_of_mem_getLast? hc))).2 hblank)

/-- The blanks at the start go, -/
theorem exists_dropBlanks (cs : List Char) :
    ∃ before, cs = before ++ dropBlanks cs ∧ ∀ c ∈ before, isBlank c = true :=
  ⟨cs.takeWhile isBlank, List.takeWhile_append_dropWhile.symm, fun _ => List.mem_takeWhile_imp⟩

/-- and what is left does not start with one. -/
theorem head?_dropBlanks {c : Char} (h : c ∈ (dropBlanks cs).head?) : isBlank c = false :=
  head?_dropWhile h

/-- Blanks before a text go, if it does not start with one. -/
theorem dropBlanks_append {before rest : List Char} (hbefore : ∀ c ∈ before, isBlank c = true)
    (hrest : ∀ c ∈ rest.head?, ¬ isBlank c = true) : dropBlanks (before ++ rest) = rest :=
  dropWhile_of_run hbefore fun c hc => Bool.not_eq_true _ ▸ hrest c hc

/-- **Trimming** comes to the middle part of a text. -/
theorem trims_trimBlanks (cs : List Char) : Trims (isBlank · = true) cs (trimBlanks cs) := by
  obtain ⟨before, hcs, hbefore⟩ := exists_dropBlanks cs
  obtain ⟨after, hrest, hafter⟩ := exists_dropBlanks (dropBlanks cs).reverse
  have hsplit : dropBlanks cs = trimBlanks cs ++ after.reverse := by
    rw [trimBlanks, ← List.reverse_append, ← hrest, List.reverse_reverse]
  refine ⟨⟨before, after.reverse, ?_, hbefore, ?_⟩, ?_, ?_⟩
  · rw [List.append_assoc, ← hsplit]
    exact hcs
  · intro c hc
    exact hafter c (List.mem_reverse.1 hc)
  · intro c hc
    rw [Bool.not_eq_true]
    have hhead : c ∈ (dropBlanks cs).head? := by
      rw [hsplit, List.head?_append, Option.mem_def.1 hc]
      rfl
    exact head?_dropBlanks hhead
  · intro c hc
    rw [Bool.not_eq_true]
    rw [trimBlanks, List.getLast?_reverse] at hc
    exact head?_dropBlanks hc

/-- **A text has only one middle part.** -/
theorem trimBlanks_eq_iff : trimBlanks cs = core ↔ Trims (isBlank · = true) cs core := by
  constructor
  · rintro rfl
    exact trims_trimBlanks cs
  · rintro ⟨⟨before, after, rfl, hbefore, hafter⟩, hfirst, hlast⟩
    cases core with
    | nil =>
      have hall : ∀ c ∈ before ++ [] ++ after, isBlank c = true := by
        intro c hc
        simp only [List.append_nil, List.mem_append] at hc
        exact hc.elim (hbefore c) (hafter c)
      have hnone : dropBlanks (before ++ [] ++ after) = [] := List.dropWhile_eq_nil_iff.2 hall
      rw [trimBlanks, hnone]
      rfl
    | cons d core =>
      have hfront : dropBlanks (before ++ (d :: core) ++ after) = (d :: core) ++ after := by
        rw [List.append_assoc]
        exact dropBlanks_append hbefore fun c hc => hfirst c hc
      rw [trimBlanks, hfront, List.reverse_append, dropBlanks_append, List.reverse_reverse]
      · intro c hc
        exact hafter c (List.mem_reverse.1 hc)
      · intro c hc
        rw [List.head?_reverse] at hc
        exact hlast c hc

end RowGuard
