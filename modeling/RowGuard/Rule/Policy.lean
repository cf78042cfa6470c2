import RowGuard.Rule.Basic

/-!
# The policy of the posts service

Administrators may do everything. A signed-in user may read everything, create posts, and manage the
posts whose `authorId` is the user's identifier; deleting other posts is denied explicitly. Without
a caller everything may be read. A caller needs a positive identifier.

`RequestContext.forCaller` gives a caller without a rule set the one that denies everything.
-/

set_option autoImplicit false

namespace RowGuard

/-- The field that names the owner of a post. -/
def authorField : String := "authorId"

/-- A rule without a condition. -/
def Rule.plain (effect : Effect) (action : Action) (subject : SubjectType) : Rule :=
  ⟨effect, action, subject, none⟩

/-- A rule with a condition. -/
def Rule.on (effect : Effect) (action : Action) (subject : SubjectType) (c : Condition) : Rule :=
  ⟨effect, action, subject, some c⟩

namespace RuleSet

/-- The rules without a caller. -/
def anonymous : RuleSet := ⟨[.plain .allow .read .all]⟩

/-- The rules of an administrator. -/
def administrator : RuleSet := ⟨[.plain .allow .manage .all]⟩

/-- The rules of an ordinary user. -/
def owner (id : Int64) : RuleSet :=
  ⟨[.plain .allow .read .all,
    .plain .allow .create .post,
    .on .allow .manage .post (.eq authorField (.ofId id)),
    .on .deny .delete .post (.ne authorField (.ofId id))]⟩

/-- **The rule set of a caller**; an identifier that is not positive is refused, whatever the role.
-/
def forCaller : Option Caller → Result RuleSet
  | none => .ok anonymous
  | some c =>
    if c.id ≤ 0 then
      .error (.policyConstruction ("caller id must be positive, got " ++ toString c.id.toInt))
    else if c.isAdmin then .ok administrator
    else .ok (owner c.id)

end RuleSet

/-- **What a request carries**: its caller and the rule set it runs under. -/
structure RequestContext where
  caller : Option Caller
  rules : RuleSet

namespace RequestContext

/-- The context of a caller. Where no rule set can be built, everything is denied. -/
def forCaller (caller : Option Caller) : RequestContext :=
  match RuleSet.forCaller caller with
  | .ok rules => ⟨caller, rules⟩
  | .error _ => ⟨caller, .denyAll⟩

/-- The context without a caller. -/
def anonymous : RequestContext := ⟨none, .anonymous⟩

end RequestContext

/-- **The rule set in force**: that of the installed context, and the anonymous one without any. -/
def effectiveRules : Option RequestContext → RuleSet
  | some context => context.rules
  | none => .anonymous

end RowGuard
