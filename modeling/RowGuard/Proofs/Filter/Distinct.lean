import Mathlib.Data.List.Induction
import RowGuard.Filter.Basic
import RowGuard.Proofs.Json.Same

/-!
# Parts without repetition

The parts of a combination are gathered one by one, and one that is there already is left out. What
counts as there already is equality of structure: it is reflexive, and equal filters are equal to
the same filters (`Filter.same_self`, `Filter.same_right`). So the first of equal parts stands for
all of them, and it does not matter in how many steps repetitions are left out.

* `Filter.Distinct`: no two filters of a list are equal
* `Filter.distinct`: a list without its repetitions
* `Filter.distinct_splice`: leaving out repetitions beforehand makes no difference
-/

set_option autoImplicit false

namespace RowGuard

namespace Filter

mutual

/-- Every filter is of its own structure. -/
theorem same_self (f : Filter) : f.same f = true := by
  match f with
  | const b => exact beq_self_eq_true b
  | test op field v => rw [same, beq_self_eq_true, beq_self_eq_true, v.same_self]; rfl
  | join c parts => rw [same, beq_self_eq_true, sameList_self parts]; rfl
  | negate g => rw [same, same_self g]

/-- `same_self`, part by part. -/
theorem sameList_self (fs : List Filter) : sameList fs fs = true := by
  match fs with
  | [] => rfl
  | f :: rest => rw [sameList, same_self f, sameList_self rest]; rfl

end

mutual

/-- **Filters of equal structure** have equal structure with the same filters. -/
theorem same_right {f g : Filter} (h : f.same g = true) (e : Filter) : e.same f = e.same g := by
  match f, g with
  | const a, const b => rw [same] at h; rw [eq_of_beq h]
  | test p n v, test q m w =>
    simp only [same, Bool.and_eq_true, beq_iff_eq] at h
    obtain ⟨⟨rfl, rfl⟩, hv⟩ := h
    cases e with
    | test r k u => simp only [same, Json.same_right hv u]
    | _ => rfl
  | join c fs, join d gs =>
    simp only [same, Bool.and_eq_true, beq_iff_eq] at h
    obtain ⟨rfl, hparts⟩ := h
    cases e with
    | join b es => simp only [same, sameList_right hparts es]
    | _ => rfl
  | negate f, negate g =>
    rw [same] at h
    cases e with
    | negate e => exact same_right h e
    | _ => rfl
  | const _, test _ _ _ | const _, join _ _ | const _, negate _ => cases h
  | test _ _ _, const _ | test _ _ _, join _ _ | test _ _ _, negate _ => cases h
  | join _ _, const _ | join _ _, test _ _ _ | join _ _, negate _ => cases h
  | negate _, const _ | negate _, test _ _ _ | negate _, join _ _ => cases h

/-- `same_right`, part by part. -/
theorem sameList_right {fs gs : List Filter} (h : sameList fs gs = true) (es : List Filter) :
    sameList es fs = sameList es gs := by
  match fs, gs, es with
  | [], [], _ => rfl
  | [], _ :: _, _ => cases h
  | _ :: _, [], _ => cases h
  | _ :: _, _ :: _, [] => rfl
  | f :: fs, g :: gs, e :: es =>
    simp only [sameList, Bool.and_eq_true] at h
    simp only [sameList, same_right h.1 e, sameList_right h.2 es]

end

/-! ## Parts that are there already -/

/-- **Whether a part is there already**, in one of its forms. -/
def Covers (parts : List Filter) (f : Filter) : Prop := ∃ g ∈ parts, g.same f = true

/-- What covers a filter covers all filters of its structure. -/
theorem Covers.congr {parts : List Filter} {f g : Filter} (h : Covers parts f)
    (hsame : f.same g = true) : Covers parts g := by
  obtain ⟨e, he, hef⟩ := h
  exact ⟨e, he, (same_right hsame e).symm.trans hef⟩

variable {parts : List Filter} {f g : Filter}

theorem pushNew_of_covers (h : Covers parts f) : pushNew parts f = parts :=
  if_pos (List.any_eq_true.2 h)

theorem pushNew_of_not_covers (h : ¬ Covers parts f) : pushNew parts f = parts ++ [f] :=
  if_neg fun hany => h (List.any_eq_true.1 hany)

theorem mem_of_mem_pushNew (h : g ∈ pushNew parts f) : g ∈ parts ∨ g = f := by
  by_cases hc : Covers parts f
  · rw [pushNew_of_covers hc] at h
    exact .inl h
  · rw [pushNew_of_not_covers hc] at h
    exact (List.mem_append.1 h).imp_right List.mem_singleton.1

/-- A part that was pushed is covered, and so are the parts before it. -/
theorem covers_pushNew (h : Covers parts g ∨ g = f) : Covers (pushNew parts f) g := by
  by_cases hc : Covers parts f
  · rw [pushNew_of_covers hc]
    rcases h with hg | rfl
    · exact hg
    · exact hc
  · rw [pushNew_of_not_covers hc]
    rcases h with ⟨e, he, heg⟩ | rfl
    · exact ⟨e, List.mem_append_left _ he, heg⟩
    · exact ⟨g, List.mem_append_right _ (List.mem_singleton_self g), g.same_self⟩

/-- **Gathered parts cover** what they were gathered from. -/
theorem covers_foldl {fs : List Filter} (h : Covers parts f ∨ f ∈ fs) :
    Covers (fs.foldl pushNew parts) f := by
  induction fs generalizing parts with
  | nil => exact h.resolve_right List.not_mem_nil
  | cons e rest ih =>
    rw [List.foldl_cons]
    rcases h with hparts | hmem
    · exact ih (.inl (covers_pushNew (.inl hparts)))
    · rcases List.mem_cons.1 hmem with rfl | hrest
      · exact ih (.inl (covers_pushNew (.inr rfl)))
      · exact ih (.inr hrest)

/-- Parts that are there already change nothing. -/
theorem foldl_of_covers {fs : List Filter} (h : ∀ f ∈ fs, Covers parts f) :
    fs.foldl pushNew parts = parts := by
  induction fs with
  | nil => rfl
  | cons f rest ih =>
    rw [List.forall_mem_cons] at h
    rw [List.foldl_cons, pushNew_of_covers h.1, ih h.2]

theorem mem_of_mem_foldl {fs : List Filter} (h : g ∈ fs.foldl pushNew parts) :
    g ∈ parts ∨ g ∈ fs := by
  induction fs generalizing parts with
  | nil => exact .inl h
  | cons f rest ih =>
    rw [List.mem_cons]
    rcases ih h with hparts | hrest
    · exact (mem_of_mem_pushNew hparts).imp_right .inl
    · exact .inr (.inr hrest)

/-! ## Lists without repetitions -/

/-- **No two filters of a list** are of equal structure. -/
def Distinct (parts : List Filter) : Prop := parts.Pairwise fun f g => f.same g = false

/-- **A list without its repetitions**: of equal filters the first one stays. -/
def distinct (fs : List Filter) : List Filter := fs.foldl pushNew []

theorem Distinct.pushNew (h : Distinct parts) (f : Filter) : Distinct (pushNew parts f) := by
  by_cases hc : Covers parts f
  · rw [pushNew_of_covers hc]
    exact h
  · rw [pushNew_of_not_covers hc]
    refine List.pairwise_append.2 ⟨h, List.pairwise_singleton _ _, fun g hg e he => ?_⟩
    rw [List.mem_singleton.1 he]
    exact Bool.eq_false_iff.2 fun hsame => hc ⟨g, hg, hsame⟩

theorem Distinct.foldl (h : Distinct parts) (fs : List Filter) :
    Distinct (fs.foldl Filter.pushNew parts) := by
  induction fs generalizing parts with
  | nil => exact h
  | cons f rest ih => exact ih (h.pushNew f)

theorem distinct_distinct (fs : List Filter) : Distinct (distinct fs) :=
  Distinct.foldl List.Pairwise.nil fs

theorem mem_of_mem_distinct {fs : List Filter} (h : g ∈ distinct fs) : g ∈ fs :=
  (mem_of_mem_foldl h).resolve_left List.not_mem_nil

theorem distinct_append_singleton (fs : List Filter) (f : Filter) :
    distinct (fs ++ [f]) = pushNew (distinct fs) f := List.foldl_append ..

/-- A list without repetitions stays as it is. -/
theorem Distinct.distinct_eq (h : Distinct parts) : distinct parts = parts := by
  induction parts using List.reverseRecOn with
  | nil => rfl
  | append_singleton parts f ih =>
    obtain ⟨hparts, -, hlast⟩ := List.pairwise_append.1 h
    rw [distinct_append_singleton, ih hparts]
    refine pushNew_of_not_covers fun ⟨g, hg, hsame⟩ => ?_
    have hdiffer := hlast g hg f (List.mem_singleton_self f)
    rw [hsame] at hdiffer
    cases hdiffer

/-- **Leaving repetitions out beforehand** makes no difference to the parts that are gathered. -/
theorem foldl_distinct (parts fs : List Filter) :
    (distinct fs).foldl pushNew parts = fs.foldl pushNew parts := by
  -- the first of equal filters comes first in either list, so the list is taken from its end
  induction fs using List.reverseRecOn with
  | nil => rfl
  | append_singleton fs f ih =>
    rw [distinct_append_singleton, List.foldl_append, List.foldl_cons, List.foldl_nil]
    by_cases hc : Covers (distinct fs) f
    · obtain ⟨g, hg, hsame⟩ := hc
      have hgathered : Covers (fs.foldl pushNew parts) f :=
        (covers_foldl (.inr (mem_of_mem_distinct hg))).congr hsame
      rw [pushNew_of_covers ⟨g, hg, hsame⟩, ih, pushNew_of_covers hgathered]
    · rw [pushNew_of_not_covers hc, List.foldl_append, ih]
      rfl

/-- So a list without its repetitions may stand for the list among others. -/
theorem distinct_splice (fs gs hs : List Filter) :
    distinct (fs ++ (distinct gs ++ hs)) = distinct (fs ++ (gs ++ hs)) := by
  unfold distinct
  rw [List.foldl_append, List.foldl_append, List.foldl_append, List.foldl_append]
  exact congrArg (hs.foldl pushNew) (foldl_distinct (fs.foldl pushNew []) gs)

end Filter

end RowGuard
