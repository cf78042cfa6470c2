import Mathlib.Logic.Equiv.Basic
import RowGuard.Proofs.Rule.Policy

/-!
# The order of rules

The last rule that speaks about a question decides it, but the decision is only an effect. So it is
an allowance just if some rule allows that no denial is above (`RuleSet.resolve_eq_allow_iff`), and
this compares the places of rules of different effects only. Rules of one effect may be exchanged,
even if another one of them then decides and the filter is another tree.

* `Reordering`: two lists of the same rules, with each allowance on the same side of each denial
* `Reordering.resolve_eq`: they decide alike
* `Reordering.same_decisions`: and their filters pass the same subjects
-/

set_option autoImplicit false

namespace RowGuard

variable {rules rules' : List Rule}

/-- **The same rules in another order**, which keeps the order of any two rules of different
effects. A rule that occurs more than once is moved occurrence by occurrence. -/
structure Reordering (rules rules' : List Rule) where
  /-- Where the rule at a place goes. -/
  place : Fin rules.length ≃ Fin rules'.length
  moved : ∀ i, rules'.get (place i) = rules.get i
  kept : ∀ i j, i < j → (rules.get i).effect ≠ (rules.get j).effect → place i < place j

/-- The way back. -/
def Reordering.symm (h : Reordering rules rules') : Reordering rules' rules where
  place := h.place.symm
  moved i := by rw [← h.moved, Equiv.apply_symm_apply]
  kept i j hij hne := by
    obtain ⟨i, rfl⟩ := h.place.surjective i
    obtain ⟨j, rfl⟩ := h.place.surjective j
    rw [h.moved, h.moved] at hne
    rw [Equiv.symm_apply_apply, Equiv.symm_apply_apply]
    rcases Nat.lt_trichotomy i j with hlt | heq | hgt
    · exact hlt
    · exact absurd (by rw [Fin.ext heq]) hne
    · exact absurd (h.kept j i hgt hne.symm) (Nat.lt_asymm hij)

namespace RuleSet

variable {α : Type} [Subject α] (action : Action) (type : SubjectType)

/-- What is found in a list with one more rule. -/
theorem getElem?_append_rule (r x : Rule) (i : Nat) :
    (rules ++ [r])[i]? = some x ↔ rules[i]? = some x ∨ i = rules.length ∧ x = r := by
  rcases Nat.lt_trichotomy i rules.length with hlt | rfl | hgt
  · rw [List.getElem?_append_left hlt]
    simp [Nat.ne_of_lt hlt]
  · simp [eq_comm]
  · have hlong : (rules ++ [r]).length ≤ i := by
      rw [List.length_append, List.length_singleton]
      exact hgt
    rw [List.getElem?_eq_none hlong, List.getElem?_eq_none (Nat.le_of_lt hgt)]
    simp [Nat.ne_of_gt hgt]

/-- **An action is allowed** if some rule that speaks allows it and every denial that speaks is
below. -/
theorem resolve_eq_allow_iff (rules : List Rule) (subject : Option α) :
    (RuleSet.mk rules).resolve action type subject = .allow ↔
      ∃ (i : Nat) (r : Rule), rules[i]? = some r ∧ (r.appliesTo action type && r.speaksOf subject) = true ∧
        r.effect = .allow ∧
        ∀ (j : Nat) (d : Rule), rules[j]? = some d → (d.appliesTo action type && d.speaksOf subject) = true →
          d.effect = .deny → j < i := by
  induction rules using List.reverseRecOn with
  | nil =>
    constructor
    · intro h
      cases h
    · rintro ⟨i, r, hr, -⟩
      cases hr
  | append_singleton rules r ih =>
    rw [resolve_append_rule]
    simp only [getElem?_append_rule]
    by_cases hr : (r.appliesTo action type && r.speaksOf subject) = true
    · rw [if_pos hr]
      constructor
      · intro hallow
        refine ⟨rules.length, r, .inr ⟨rfl, rfl⟩, hr, hallow, ?_⟩
        rintro j d (hd | ⟨-, rfl⟩) _ hdeny
        · exact (List.getElem?_eq_some_iff.1 hd).1
        · rw [hallow] at hdeny
          cases hdeny
      · rintro ⟨i, x, hx, -, hallow, hbelow⟩
        cases heffect : r.effect with
        | allow => rfl
        | deny =>
          -- a denial on top would have to be below the rule that allows
          have hi : rules.length < i := hbelow _ r (.inr ⟨rfl, rfl⟩) hr heffect
          rcases hx with hx | ⟨rfl, -⟩
          · exact absurd (List.getElem?_eq_some_iff.1 hx).1 (Nat.lt_asymm hi)
          · exact absurd hi (Nat.lt_irrefl _)
    · rw [if_neg hr, ih]
      constructor
      · rintro ⟨i, x, hx, hspeaks, hallow, hbelow⟩
        refine ⟨i, x, .inl hx, hspeaks, hallow, ?_⟩
        rintro j d (hd | ⟨-, rfl⟩) hj hdeny
        · exact hbelow j d hd hj hdeny
        · exact absurd hj hr
      · rintro ⟨i, x, hx | ⟨-, rfl⟩, hspeaks, hallow, hbelow⟩
        · exact ⟨i, x, hx, hspeaks, hallow, fun j d hd => hbelow j d (.inl hd)⟩
        · exact absurd hspeaks hr

end RuleSet

namespace Reordering

variable {α : Type} [Subject α]

/-- Every rule of the other order comes from a place of this one. -/
theorem exists_place (h : Reordering rules rules') {j : Nat} {d : Rule}
    (hd : rules'[j]? = some d) : ∃ k, (h.place k).1 = j ∧ rules.get k = d := by
  obtain ⟨hj, rfl⟩ := List.getElem?_eq_some_iff.1 hd
  obtain ⟨k, hk⟩ := h.place.surjective ⟨j, hj⟩
  refine ⟨k, congrArg Fin.val hk, ?_⟩
  rw [← h.moved, hk]
  rfl

/-- What the rules allow, they allow in the other order: the rule that allows it has moved, and so
have the denials below it, to places below it. -/
theorem resolve_allow (h : Reordering rules rules') {action : Action} {type : SubjectType}
    {subject : Option α} (hallow : (RuleSet.mk rules).resolve action type subject = .allow) :
    (RuleSet.mk rules').resolve action type subject = .allow := by
  rw [RuleSet.resolve_eq_allow_iff] at hallow ⊢
  obtain ⟨i, r, hr, hspeaks, heffect, hbelow⟩ := hallow
  obtain ⟨i, rfl, rfl⟩ := h.symm.exists_place hr
  refine ⟨i, _, List.getElem?_eq_getElem i.2, hspeaks, heffect, fun j d hd hj hdeny => ?_⟩
  obtain ⟨k, rfl, rfl⟩ := h.exists_place hd
  have hk : k < h.symm.place i := hbelow k _ (List.getElem?_eq_getElem k.2) hj hdeny
  have hmoved : rules'.get i = rules.get (h.symm.place i) := (h.symm.moved i).symm
  have hne : (rules.get k).effect ≠ (rules.get (h.symm.place i)).effect := by
    rw [hdeny, ← hmoved, heffect]
    decide
  have hplaces := h.kept k _ hk hne
  rwa [show h.place (h.symm.place i) = i from h.place.apply_symm_apply i] at hplaces

/-- **The decision is the same** in any such order. -/
theorem resolve_eq (h : Reordering rules rules') (action : Action) (type : SubjectType)
    (subject : Option α) : (RuleSet.mk rules').resolve action type subject =
      (RuleSet.mk rules).resolve action type subject := by
  cases hrules : (RuleSet.mk rules).resolve action type subject with
  | allow => exact h.resolve_allow hrules
  | deny =>
    cases hrules' : (RuleSet.mk rules').resolve action type subject with
    | deny => rfl
    | allow =>
      rw [h.symm.resolve_allow hrules'] at hrules
      cases hrules

/-- **Only the order between allowances and denials counts.** Two lists of the same rules in which
each allowance is on the same side of each denial give the same decision on every action, about
every type and every subject or none, and the filters built from them pass the same subjects. -/
theorem same_decisions (h : Reordering rules rules') (action : Action) (type : SubjectType) :
    (∀ subject : Option α, (RuleSet.mk rules').resolve action type subject =
      (RuleSet.mk rules).resolve action type subject) ∧
    ∀ s : α, ((RuleSet.mk rules').filterFor action type).admits s =
      ((RuleSet.mk rules).filterFor action type).admits s := by
  refine ⟨h.resolve_eq action type, fun s => ?_⟩
  rw [RuleSet.admits_filterFor, RuleSet.admits_filterFor, h.resolve_eq]

/-- Two allowances change places, and so do two denials. Another rule than before allows to update
a draft of user 3, and the filter asks the same in another order. -/
theorem drafts_after_exchange :
    let own := Rule.on .allow .manage .post (.eq authorField (.int 3))
    let drafts := Rule.on .allow .update .post (.eq "status" (.string "draft"))
    let foreign := Rule.on .deny .delete .post (.ne authorField (.int 3))
    let users := Rule.plain .deny .delete .user
    let post := Record.new .post 1 [(authorField, .int 3), ("status", .string "draft")]
    let before : RuleSet := ⟨[own, drafts, foreign, users]⟩
    let after : RuleSet := ⟨[drafts, own, users, foreign]⟩
    before.filterFor .update .post = (drafts.scope.or own.scope) ∧
      after.filterFor .update .post = (own.scope.or drafts.scope) ∧
      after.resolve .update .post (some post) = .allow ∧
      after.resolve .delete .user (none : Option Record) = .deny ∧
      (after.filterFor .update .post).admits post = true := by
  intro own drafts foreign users post before after
  have hmoved : ∀ i : Fin 4, after.rules[((Equiv.swap 0 1).trans (Equiv.swap 2 3) i : Fin 4)] =
      before.rules[i]
    | 0 => rfl
    | 1 => rfl
    | 2 => rfl
    | 3 => rfl
  let exchange : Reordering before.rules after.rules :=
    { place := (Equiv.swap (0 : Fin 4) 1).trans (Equiv.swap 2 3)
      moved := hmoved
      kept := by decide }
  obtain ⟨hsame, hadmits⟩ := exchange.same_decisions (α := Record) .update .post
  obtain ⟨htype, -⟩ := exchange.same_decisions (α := Record) .delete .user
  refine ⟨rfl, rfl, (hsame _).trans ?_, (htype _).trans rfl, (hadmits _).trans ?_⟩
  · decide +kernel
  · decide +kernel

end Reordering

end RowGuard
