import RowGuard.Filter.Basic
import RowGuard.Proofs.Json.Same

/-!
# Simplified filters keep their meaning

`Filter.combine` drops constants, takes inner parts apart and leaves repeated parts out, and
`Filter.not` rewrites instead of negating. None of it changes which subjects pass, for any trees,
simplified or not.

* `holds_same`: filters of equal structure have one meaning, so a repeated part can go
* `holds_combine`: a combination means what its parts mean under the connective
* `holds_not`: the negation passes what the filter does not
-/

set_option autoImplicit false

namespace RowGuard

namespace Connective

variable (c : Connective) (x y z : Bool)

theorem neutral_join : c.join c.neutral x = x := by cases c <;> cases x <;> rfl

theorem join_neutral : c.join x c.neutral = x := by cases c <;> cases x <;> rfl

theorem absorbing_join : c.join (!c.neutral) x = !c.neutral := by cases c <;> cases x <;> rfl

theorem join_absorbing : c.join x (!c.neutral) = !c.neutral := by cases c <;> cases x <;> rfl

/-- Joining is associative for both connectives. -/
theorem join_assoc : c.join (c.join x y) z = c.join x (c.join y z) := by
  cases c
  · exact Bool.and_assoc x y z
  · exact Bool.or_assoc x y z

/-- A value counts once, wherever it stands among the parts. -/
theorem join_repeat : c.join (c.join x y) x = c.join x y := by
  cases c <;> cases x <;> cases y <;> rfl

end Connective

namespace Filter

variable (field : String → Option Json)

/-- Values that are the same compare alike with anything. -/
theorem holds_test_same {op : Comparison} {actual : Option Json} {v w : Json}
    (h : v.same w = true) : op.holds actual v = op.holds actual w := by
  cases actual with
  | none => rfl
  | some a => simp only [Comparison.holds, Json.agrees_right h a]

mutual

/-- **Filters of equal structure** pass the same subjects. -/
theorem holds_same {f g : Filter} (h : f.same g = true) : f.holds field = g.holds field := by
  match f, g with
  | const a, const b => simp only [same] at h; rw [eq_of_beq h]
  | test p n v, test q m w =>
    simp only [same, Bool.and_eq_true, beq_iff_eq] at h
    obtain ⟨⟨rfl, rfl⟩, hv⟩ := h
    exact holds_test_same hv
  | join c fs, join d gs =>
    simp only [same, Bool.and_eq_true, beq_iff_eq] at h
    obtain ⟨rfl, hps⟩ := h
    exact holdsJoin_same c hps
  | negate f, negate g => simp only [holds, holds_same (f := f) (g := g) h]
  | const _, test _ _ _ | const _, join _ _ | const _, negate _ => cases h
  | test _ _ _, const _ | test _ _ _, join _ _ | test _ _ _, negate _ => cases h
  | join _ _, const _ | join _ _, test _ _ _ | join _ _, negate _ => cases h
  | negate _, const _ | negate _, test _ _ _ | negate _, join _ _ => cases h

/-- `holds_same`, part by part. -/
theorem holdsJoin_same (c : Connective) {fs gs : List Filter} (h : sameList fs gs = true) :
    holdsJoin field c fs = holdsJoin field c gs := by
  match fs, gs with
  | [], [] => rfl
  | [], _ :: _ | _ :: _, [] => cases h
  | f :: fs, g :: gs =>
    simp only [sameList, Bool.and_eq_true] at h
    simp only [holdsJoin, holds_same h.1, holdsJoin_same c h.2]

end

/-! ## Parts under a connective -/

variable (c : Connective)

/-- Parts are joined with parts. -/
theorem holdsJoin_append (fs gs : List Filter) :
    holdsJoin field c (fs ++ gs) = c.join (holdsJoin field c fs) (holdsJoin field c gs) := by
  induction fs with
  | nil => rw [List.nil_append, holdsJoin, c.neutral_join]
  | cons f fs ih => rw [List.cons_append, holdsJoin, ih, holdsJoin, c.join_assoc]

theorem holdsJoin_singleton (f : Filter) : holdsJoin field c [f] = f.holds field := by
  rw [holdsJoin, holdsJoin, c.join_neutral]

/-- A part that is there already adds nothing. -/
theorem join_of_mem {parts : List Filter} {g : Filter} (h : g ∈ parts) :
    c.join (holdsJoin field c parts) (g.holds field) = holdsJoin field c parts := by
  induction parts with
  | nil => cases h
  | cons p rest ih =>
    rcases List.mem_cons.1 h with rfl | hr
    · exact c.join_repeat _ _
    · rw [holdsJoin, c.join_assoc, ih hr]

/-- A part that is there already adds nothing to the join. -/
theorem holdsJoin_pushNew (parts : List Filter) (f : Filter) :
    holdsJoin field c (pushNew parts f) = c.join (holdsJoin field c parts) (f.holds field) := by
  unfold pushNew
  split
  · rename_i h
    obtain ⟨g, hg, hs⟩ := List.any_eq_true.1 h
    rw [← holds_same field hs, join_of_mem field c hg]
  · rw [holdsJoin_append, holdsJoin_singleton]

theorem holdsJoin_foldl_pushNew (inner : List Filter) : ∀ parts : List Filter,
    holdsJoin field c (inner.foldl pushNew parts) =
      c.join (holdsJoin field c parts) (holdsJoin field c inner) := by
  induction inner with
  | nil => intro parts; rw [List.foldl_nil, holdsJoin, c.join_neutral]
  | cons f rest ih =>
    intro parts
    rw [List.foldl_cons, ih, holdsJoin_pushNew, holdsJoin, c.join_assoc]

/-- **Gathering parts** keeps their meaning under the connective; giving up stands for the value
that absorbs every other. -/
theorem gather_holds (fs : List Filter) : ∀ parts : List Filter,
    (gather c parts fs).elim (!c.neutral) (holdsJoin field c) =
      c.join (holdsJoin field c parts) (holdsJoin field c fs) := by
  induction fs with
  | nil => intro parts; exact (c.join_neutral _).symm
  | cons f rest ih =>
    intro parts
    -- every kind of filter but an absorbing constant only adds its meaning to the parts
    have push : ∀ parts',
        holdsJoin field c parts' = c.join (holdsJoin field c parts) (f.holds field) →
        (gather c parts' rest).elim (!c.neutral) (holdsJoin field c) =
          c.join (holdsJoin field c parts) (holdsJoin field c (f :: rest)) := by
      intro parts' h
      rw [ih, h, holdsJoin, c.join_assoc]
    cases f with
    | const b =>
      by_cases hb : b = c.neutral
      · rw [gather, if_pos hb]
        exact push parts (by rw [holds, hb, c.join_neutral])
      · have hb' : b = !c.neutral := Bool.eq_not.2 hb
        rw [gather, if_neg hb, holdsJoin, holds, hb', c.absorbing_join, c.join_absorbing]
        rfl
    | join d inner =>
      by_cases hd : d = c
      · rw [gather, if_pos hd]
        exact push _ (by rw [holdsJoin_foldl_pushNew, holds, hd])
      · rw [gather, if_neg hd]
        exact push _ (holdsJoin_pushNew field c parts _)
    | test op name value => exact push _ (holdsJoin_pushNew field c parts _)
    | negate g => exact push _ (holdsJoin_pushNew field c parts _)

/-- **A simplified combination** means what its parts mean under the connective. -/
theorem holds_combine (fs : List Filter) : (combine c fs).holds field = holdsJoin field c fs := by
  have h := gather_holds field c fs []
  rw [holdsJoin, c.neutral_join] at h
  rw [← h]
  unfold combine
  rcases gather c [] fs with _ | _ | ⟨f, _ | ⟨g, rest⟩⟩
  · rfl
  · rfl
  · exact (holdsJoin_singleton field c f).symm
  · rfl

/-! ## Negation and the two-part combinations -/

/-- **The opposite comparison** holds just if the comparison does not. -/
theorem flip_holds (op : Comparison) (actual : Option Json) (value : Json) :
    op.flip.holds actual value = !op.holds actual value := by
  cases op
  · rfl
  · exact (Bool.not_not _).symm

/-- **The negation** passes what the filter does not. -/
theorem holds_not (f : Filter) : f.not.holds field = !f.holds field := by
  cases f with
  | const b => rfl
  | test op name value => exact flip_holds op _ value
  | join c parts => rfl
  | negate g => exact (Bool.not_not _).symm

variable {α : Type} [Subject α] (s : α)

@[simp] theorem admits_pass : pass.admits s = true := rfl

@[simp] theorem admits_fail : fail.admits s = false := rfl

@[simp] theorem admits_not (f : Filter) : f.not.admits s = !f.admits s := holds_not _ f

@[simp] theorem admits_and (f g : Filter) : (f.and g).admits s = (f.admits s && g.admits s) := by
  unfold admits Filter.and all
  rw [holds_combine, holdsJoin, holdsJoin_singleton]
  rfl

@[simp] theorem admits_or (f g : Filter) : (f.or g).admits s = (f.admits s || g.admits s) := by
  unfold admits Filter.or any
  rw [holds_combine, holdsJoin, holdsJoin_singleton]
  rfl

end Filter

end RowGuard
