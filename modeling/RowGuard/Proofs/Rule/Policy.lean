import RowGuard.Proofs.Rule.Agreement
import RowGuard.Rule.Policy

/-!
# The decisions of the policy

What each rule set of the policy allows, as a condition on the action and the subject. An ordinary
user may read everything, and on posts may create any and manage the user's own (`can_owner`): the
denial of other deletions takes nothing away that was allowed.

The context of a caller carries one of these rule sets (`rules_forCaller_cases`), and the rule set
tells which kind of caller it is for (`rules_eq_administrator_iff` and those after it).
-/

set_option autoImplicit false

namespace RowGuard

namespace RuleSet

variable {α : Type} [Subject α] (action : Action) (x : α)

theorem can_denyAll : denyAll.can action x = false := rfl

theorem can_anonymous : anonymous.can action x = (action == .read) := by
  cases action <;> rfl

theorem can_administrator : administrator.can action x = true := by
  unfold can resolve administrator
  cases action <;> rfl

/-- One more rule decides whatever it speaks about. -/
theorem can_append_rule (rules : List Rule) (r : Rule) :
    (RuleSet.mk (rules ++ [r])).can action x =
      if r.appliesTo action (Subject.subjectType x) && r.speaksOf (some x) then r.effect.isAllow
      else (RuleSet.mk rules).can action x := by
  unfold can
  rw [resolve_append_rule, apply_ite Effect.isAllow]

/-- **What an ordinary user may do.** -/
theorem can_owner (id : Int64) : (owner id).can action x =
    (action == .read || Subject.subjectType x == .post &&
      (action == .create || (Filter.eq authorField (.ofId id)).admits x)) := by
  have hmanage : (Rule.on .allow .manage .post (.eq authorField (.ofId id))).speaksOf (some x) =
      (Filter.eq authorField (.ofId id)).admits x := rfl
  have hdelete : (Rule.on .deny .delete .post (.ne authorField (.ofId id))).speaksOf (some x) =
      !(Filter.eq authorField (.ofId id)).admits x := rfl
  have hrules : owner id = ⟨[.plain .allow .read .all, .plain .allow .create .post] ++
      [.on .allow .manage .post (.eq authorField (.ofId id))] ++
      [.on .deny .delete .post (.ne authorField (.ofId id))]⟩ := rfl
  rw [hrules, can_append_rule, can_append_rule, hmanage, hdelete]
  generalize (Filter.eq authorField (.ofId id)).admits x = owned
  -- what is left is a table over actions, types and ownership
  unfold can resolve
  generalize Subject.subjectType x = type
  cases action <;> cases type <;> cases owned <;> rfl

/-- Users with the same rules have the same identifier. -/
theorem owner_inj {id id' : Int64} : owner id = owner id' ↔ id = id' := by
  constructor
  · intro h
    simp only [owner, Rule.on, Condition.eq, Condition.push, Json.ofId, Json.int] at h
    simp at h
    exact Int64.toInt_inj.1 h.1
  · rintro rfl
    rfl

/-- An ordinary user has the rules of an owner. -/
theorem forCaller_user {c : Caller} (hid : 0 < c.id) (hrole : c.role = .user) :
    forCaller (some c) = .ok (.owner c.id) := by
  have hadmin : c.isAdmin ≠ true := by
    rw [Caller.isAdmin, hrole]
    decide
  unfold forCaller
  dsimp only
  rw [if_neg (Int64.not_le.2 hid), if_neg hadmin]

end RuleSet

namespace RequestContext

variable {c : Caller}

/-- A caller whose identifier is not positive is denied everything, whatever the role. -/
theorem rules_forCaller_refused (hid : c.id ≤ 0) : (forCaller (some c)).rules = .denyAll := by
  unfold forCaller RuleSet.forCaller
  dsimp only
  rw [if_pos hid]

theorem rules_forCaller_user (hid : 0 < c.id) (hrole : c.role = .user) :
    (forCaller (some c)).rules = .owner c.id := by
  rw [forCaller, RuleSet.forCaller_user hid hrole]

theorem rules_forCaller_admin (hid : 0 < c.id) (hrole : c.role = .admin) :
    (forCaller (some c)).rules = .administrator := by
  have hadmin : c.isAdmin = true := by
    rw [Caller.isAdmin, hrole]
    decide
  unfold forCaller RuleSet.forCaller
  dsimp only
  rw [if_neg (Int64.not_le.2 hid), if_pos hadmin]

/-- **The rule set of a caller** is one of three. -/
theorem rules_forCaller_cases (c : Caller) :
    (c.id ≤ 0 ∧ (forCaller (some c)).rules = .denyAll) ∨
    (0 < c.id ∧ c.role = .admin ∧ (forCaller (some c)).rules = .administrator) ∨
    (0 < c.id ∧ c.role = .user ∧ (forCaller (some c)).rules = .owner c.id) := by
  by_cases hid : c.id ≤ 0
  · exact .inl ⟨hid, rules_forCaller_refused hid⟩
  · have hpositive : 0 < c.id := Int64.not_le.1 hid
    cases hrole : c.role with
    | admin => exact .inr (.inl ⟨hpositive, rfl, rules_forCaller_admin hpositive hrole⟩)
    | user => exact .inr (.inr ⟨hpositive, rfl, rules_forCaller_user hpositive hrole⟩)

/-! ### Whom a rule set is for -/

variable (caller : Option Caller)

/-- The anonymous rule set is for requests without a caller. -/
theorem rules_eq_anonymous_iff : (forCaller caller).rules = .anonymous ↔ caller = none := by
  cases caller with
  | none => exact iff_of_true rfl rfl
  | some c =>
    refine iff_of_false ?_ (Option.some_ne_none c)
    rcases rules_forCaller_cases c with ⟨-, hrules⟩ | ⟨-, -, hrules⟩ | ⟨-, -, hrules⟩
    · simp [hrules, RuleSet.denyAll, RuleSet.anonymous]
    · simp [hrules, RuleSet.administrator, RuleSet.anonymous, Rule.plain]
    · simp [hrules, RuleSet.owner, RuleSet.anonymous]

/-- All is denied to callers without a proper id, whatever their role. -/
theorem rules_eq_denyAll_iff :
    (forCaller caller).rules = .denyAll ↔ ∃ c, caller = some c ∧ c.id ≤ 0 := by
  cases caller with
  | none => exact iff_of_false nofun (by simp)
  | some c =>
    rcases rules_forCaller_cases c with ⟨hid, hrules⟩ | ⟨hid, -, hrules⟩ | ⟨hid, -, hrules⟩
    · simp [hrules, hid]
    · simp [hrules, RuleSet.administrator, RuleSet.denyAll, Int64.not_le.2 hid]
    · simp [hrules, RuleSet.owner, RuleSet.denyAll, Int64.not_le.2 hid]

/-- **Who has all rights.** -/
theorem rules_eq_administrator_iff : (forCaller caller).rules = .administrator ↔
    ∃ c, caller = some c ∧ 0 < c.id ∧ c.role = .admin := by
  cases caller with
  | none => exact iff_of_false nofun (by simp)
  | some c =>
    rcases rules_forCaller_cases c with
      ⟨hid, hrules⟩ | ⟨hid, hrole, hrules⟩ | ⟨-, hrole, hrules⟩
    · simp [hrules, RuleSet.denyAll, RuleSet.administrator, Int64.not_lt.2 hid]
    · simp [hrules, hid, hrole]
    · simp [hrules, RuleSet.owner, RuleSet.administrator, hrole]

/-- **Who has the rights of an owner.** -/
theorem rules_eq_owner_iff (id : Int64) : (forCaller caller).rules = .owner id ↔
    0 < id ∧ ∃ c, caller = some c ∧ c.id = id ∧ c.role = .user := by
  cases caller with
  | none => exact iff_of_false nofun (by simp)
  | some c =>
    rcases rules_forCaller_cases c with
      ⟨hid, hrules⟩ | ⟨-, hrole, hrules⟩ | ⟨hid, hrole, hrules⟩
    · refine iff_of_false (by simp [hrules, RuleSet.denyAll, RuleSet.owner]) ?_
      rintro ⟨hpositive, _, ⟨⟩, rfl, -⟩
      exact Int64.not_lt.2 hid hpositive
    · simp [hrules, RuleSet.administrator, RuleSet.owner, hrole]
    · rw [hrules, RuleSet.owner_inj]
      constructor
      · rintro rfl
        exact ⟨hid, c, rfl, rfl, hrole⟩
      · rintro ⟨-, _, ⟨⟩, rfl, -⟩
        rfl

end RequestContext

end RowGuard
