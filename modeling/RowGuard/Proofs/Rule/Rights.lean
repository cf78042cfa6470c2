import RowGuard.Proofs.Filter.Parts
import RowGuard.Proofs.Rule.Policy

/-!
# The rights of each caller

The policy compiles a caller into rules that overlap and override one another. What comes of them is
a short list of rights (`Entitled`): a context allows an action on a subject exactly to a caller who
is entitled to it. A caller whose identifier is not positive is entitled to nothing.

* `PostOf`: the posts of an author
* `RequestContext.can_iff_entitled`: decisions and rights are the same
* `rights_of_callers`: who gets a rule set, what it allows, and how the rights grow with the role
-/

set_option autoImplicit false

namespace RowGuard

variable {α : Type} [Subject α]

/-- **The posts of an author**: those whose author agrees with the author's identifier. A post
without an author is nobody's. -/
def PostOf (id : Int64) (x : α) : Prop :=
  Subject.subjectType x = .post ∧
    ∃ author, Subject.field x authorField = some author ∧ author.agrees (.ofId id) = true

/-- **Who may do what with a subject.** -/
inductive Entitled (x : α) : Option Caller → Action → Prop
  /-- Without a caller everything may be read, and nothing else is allowed. -/
  | visitor : Entitled x none .read
  | administrator {c : Caller} (hid : 0 < c.id) (hrole : c.role = .admin) (action : Action) :
      Entitled x (some c) action
  | reader {c : Caller} (hid : 0 < c.id) : Entitled x (some c) .read
  | writer {c : Caller} (hid : 0 < c.id) (hpost : Subject.subjectType x = .post) :
      Entitled x (some c) .create
  | owner {c : Caller} (hid : 0 < c.id) (hown : PostOf c.id x) {action : Action}
      (haction : action = .manage ∨ action = .update ∨ action = .delete) :
      Entitled x (some c) action

/-- Whoever is entitled to anything has a positive identifier. -/
theorem Entitled.positive {x : α} {c : Caller} {action : Action}
    (h : Entitled x (some c) action) : 0 < c.id := by
  cases h <;> assumption

/-- The rule about a user's own posts speaks of just these. -/
theorem admits_author_iff (id : Int64) (x : α) :
    (Filter.eq authorField (.ofId id)).admits x = true ↔
      ∃ author, Subject.field x authorField = some author ∧ author.agrees (.ofId id) = true :=
  Predicate.admits_toFilter_iff ⟨authorField, .eq, .ofId id⟩ x

/-- **What an ordinary user may do** is what the user is entitled to. -/
theorem RuleSet.can_owner_iff {c : Caller} (hid : 0 < c.id) (hrole : c.role = .user)
    (action : Action) (x : α) :
    (owner c.id).can action x = true ↔ Entitled x (some c) action := by
  have hrules : (owner c.id).can action x = true ↔ action = .read ∨
      Subject.subjectType x = .post ∧ (action = .create ∨
        (Filter.eq authorField (.ofId c.id)).admits x = true) := by
    simp only [can_owner, Bool.or_eq_true, Bool.and_eq_true, beq_iff_eq]
  rw [hrules, admits_author_iff]
  constructor
  · rintro (rfl | ⟨hpost, rfl | hauthor⟩)
    · exact .reader hid
    · exact .writer hid hpost
    -- the owner's rule covers any action, and reading and creating are rights of their own
    · have hown : PostOf c.id x := ⟨hpost, hauthor⟩
      cases action with
      | read => exact .reader hid
      | create => exact .writer hid hpost
      | manage => exact .owner hid hown (.inl rfl)
      | update => exact .owner hid hown (.inr (.inl rfl))
      | delete => exact .owner hid hown (.inr (.inr rfl))
  · intro h
    cases h with
    | administrator _ hadmin =>
      rw [hrole] at hadmin
      cases hadmin
    | reader => exact .inl rfl
    | writer _ hpost => exact .inr ⟨hpost, .inl rfl⟩
    | owner _ hown => exact .inr ⟨hown.1, .inr hown.2⟩

/-- **Decisions and rights are the same**, whoever the caller is. -/
theorem RequestContext.can_iff_entitled (caller : Option Caller) (action : Action) (x : α) :
    (forCaller caller).rules.can action x = true ↔ Entitled x caller action := by
  cases caller with
  | none =>
    have hrules : (forCaller none).rules = .anonymous := rfl
    rw [hrules, RuleSet.can_anonymous, beq_iff_eq]
    constructor
    · rintro rfl
      exact .visitor
    · intro h
      cases h
      rfl
  | some c =>
    rcases rules_forCaller_cases c with ⟨hid, hrules⟩ | ⟨hid, hrole, hrules⟩ | ⟨hid, hrole, hrules⟩
    · rw [hrules, RuleSet.can_denyAll]
      have hnone : ¬ Entitled x (some c) action :=
        fun h => Int64.not_lt.2 hid h.positive
      simp [hnone]
    · rw [hrules, RuleSet.can_administrator]
      have hall : Entitled x (some c) action := .administrator hid hrole action
      simp [hall]
    · rw [hrules, RuleSet.can_owner_iff hid hrole]

/-- The context of a caller carries the rule set built for the caller. One is built unless the
caller's identifier is not positive. -/
theorem RequestContext.forCaller_ok {caller : Option Caller}
    (h : ∀ c, caller = some c → 0 < c.id) :
    RuleSet.forCaller caller = .ok (forCaller caller).rules := by
  cases hrules : RuleSet.forCaller caller with
  | ok rules => rw [forCaller, hrules]
  | error e =>
    exfalso
    unfold RuleSet.forCaller at hrules
    split at hrules
    · cases hrules
    · rename_i c
      have hid : ¬ c.id ≤ 0 := Int64.not_le.2 (h c rfl)
      rw [if_neg hid] at hrules
      split at hrules <;> cases hrules

/-- **The rights of callers.** No rule set is built for an identifier that is not positive, and the
context of such a caller denies everything, whatever the role. Any other caller, and a request
without one, gets a rule set that allows on each subject what there is a right to. So users may do
what visitors may, and administrators what users may. -/
theorem rights_of_callers (x : α) :
    (∀ c : Caller, c.id ≤ 0 →
      RuleSet.forCaller (some c) = .error
        (.policyConstruction ("caller id must be positive, got " ++ toString c.id.toInt)) ∧
      ∀ action type (y : Option α),
        (RequestContext.forCaller (some c)).rules.resolve action type y = .deny) ∧
    (∀ caller : Option Caller, (∀ c, caller = some c → 0 < c.id) →
      ∃ rules, RuleSet.forCaller caller = .ok rules ∧
        (RequestContext.forCaller caller).rules = rules ∧
        ∀ action, rules.can action x = true ↔ Entitled x caller action) ∧
    ∀ user admin : Caller, 0 < user.id → user.role = .user → 0 < admin.id → admin.role = .admin →
      ∀ action,
        (RuleSet.anonymous.can action x = true →
          (RequestContext.forCaller (some user)).rules.can action x = true) ∧
        ((RequestContext.forCaller (some user)).rules.can action x = true →
          (RequestContext.forCaller (some admin)).rules.can action x = true) := by
  refine ⟨fun c hid => ⟨?_, fun action type y => ?_⟩, fun caller hcaller => ?_, ?_⟩
  · unfold RuleSet.forCaller
    dsimp only
    rw [if_pos hid]
  · rw [RequestContext.rules_forCaller_refused hid]
    rfl
  · have hrules := RequestContext.forCaller_ok hcaller
    exact ⟨_, hrules, rfl, fun action => RequestContext.can_iff_entitled caller action x⟩
  · intro user admin huser _ hadmin hrole action
    rw [RequestContext.can_iff_entitled, RequestContext.can_iff_entitled]
    refine ⟨fun hread => ?_, fun _ => .administrator hadmin hrole action⟩
    rw [RuleSet.can_anonymous, beq_iff_eq] at hread
    rw [hread]
    exact .reader huser

/-- A post of user 3 may be deleted by user 3 and by an administrator, read by user 4 too, and an
administrator needs a positive identifier. -/
theorem rights_over_a_post :
    let post := Record.new .post 1 [(authorField, .int 3)]
    ∃ rules rules', RuleSet.forCaller (some (.user 3)) = .ok rules ∧
      RuleSet.forCaller (some (.user 4)) = .ok rules' ∧
      rules.can .delete post = true ∧ rules'.can .delete post = false ∧
      rules'.can .read post = true ∧
      (RequestContext.forCaller (some (.admin 1))).rules.can .delete post = true ∧
      (RequestContext.forCaller (some (.admin 0))).rules.resolve .read .post (some post) = .deny := by
  intro post
  obtain ⟨hrefused, hrights, hgrow⟩ := rights_of_callers post
  have hpositive : ∀ n : Int64, 0 < n → ∀ c, some (Caller.user n) = some c → 0 < c.id := by
    rintro n hn c ⟨⟩
    exact hn
  obtain ⟨rules, hrules, hcontext, hcan⟩ := hrights _ (hpositive 3 (by decide))
  obtain ⟨rules', hrules', hcontext', hcan'⟩ := hrights _ (hpositive 4 (by decide))
  have hown : PostOf (Caller.user 3).id post := ⟨rfl, .int 3, rfl, by decide⟩
  have hdelete : rules.can .delete post = true :=
    (hcan .delete).2 (.owner (by decide) hown (.inr (.inr rfl)))
  have hforeign : ¬ Entitled post (some (.user 4)) .delete := by
    intro h
    cases h with
    | administrator _ hrole => cases hrole
    | owner _ hown =>
      obtain ⟨-, author, hauthor, hagrees⟩ := hown
      cases hauthor
      exact absurd hagrees (by decide)
  obtain ⟨hvisitor, -⟩ := hgrow (.user 4) (.admin 1) (by decide) rfl (by decide) rfl .read
  obtain ⟨-, hadmin⟩ := hgrow (.user 3) (.admin 1) (by decide) rfl (by decide) rfl .delete
  refine ⟨rules, rules', hrules, hrules', hdelete, ?_, ?_, ?_, ?_⟩
  · rw [← Bool.not_eq_true, hcan']
    exact hforeign
  · rw [← hcontext']
    exact hvisitor rfl
  · exact hadmin (by rw [hcontext]; exact hdelete)
  · exact (hrefused (.admin 0) (by decide)).2 .read .post (some post)

end RowGuard
