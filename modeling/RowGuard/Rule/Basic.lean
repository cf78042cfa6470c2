import RowGuard.Filter.Basic

/-!
# Rules and rule sets

A rule allows or denies an action on a type of subjects, possibly only where a condition holds. A
rule set is a list of rules, later rules above earlier ones. It is used in two ways, which agree on
every subject:

* `RuleSet.resolve` asks about one subject, or about a type as such: the last rule that speaks about
  the question decides, and silence denies
* `RuleSet.filterFor` builds, from the first rule to the last, the filter of the subjects on which
  the action is allowed
-/

set_option autoImplicit false

namespace RowGuard

/-- A comparison of one field. -/
structure Predicate where
  field : String
  op : Comparison
  value : Json

/-- The predicate as a filter. -/
def Predicate.toFilter (p : Predicate) : Filter := .test p.op p.field p.value

/-- Predicates that must all hold. -/
structure Condition where
  predicates : List Predicate

namespace Condition

/-- The condition on nothing. -/
def empty : Condition := ⟨[]⟩

/-- The condition with one more predicate. -/
def push (c : Condition) (field : String) (op : Comparison) (value : Json) : Condition :=
  ⟨c.predicates ++ [⟨field, op, value⟩]⟩

/-- The field agrees with the value. -/
def eq (field : String) (value : Json) : Condition := empty.push field .eq value

/-- The field does not agree with the value. -/
def ne (field : String) (value : Json) : Condition := empty.push field .ne value

/-- The condition as a filter. -/
def toFilter (c : Condition) : Filter := .all (c.predicates.map Predicate.toFilter)

/-- Whether a subject meets the condition. -/
def admits {α : Type} [Subject α] (c : Condition) (s : α) : Bool := c.toFilter.admits s

end Condition

/-- **A rule**: what it says, about which action on which type, and where. -/
structure Rule where
  effect : Effect
  action : Action
  subject : SubjectType
  condition : Option Condition

namespace Rule

/-- Whether the rule is about the action and the type. -/
def appliesTo (r : Rule) (action : Action) (type : SubjectType) : Bool :=
  r.action.covers action && r.subject.covers type

/-- **Whether the rule's condition holds.** Asked about a type as such, a condition counts as met
for a rule that allows and as unmet for a rule that denies. -/
def speaksOf {α : Type} [Subject α] (r : Rule) (subject : Option α) : Bool :=
  match r.condition, subject with
  | none, _ => true
  | some c, some s => c.admits s
  | some _, none => r.effect.isAllow

/-- The subjects the rule's condition admits. -/
def scope (r : Rule) : Filter :=
  match r.condition with
  | none => .pass
  | some c => c.toFilter

end Rule

/-- **An ordered list of rules**, later ones above earlier ones. -/
structure RuleSet where
  rules : List Rule

namespace RuleSet

/-- The rule set that denies everything. -/
def denyAll : RuleSet := ⟨[]⟩

/-- **The decision** on an action, about a subject of a type or about the type as such. -/
def resolve {α : Type} [Subject α] (rs : RuleSet) (action : Action) (type : SubjectType)
    (subject : Option α) : Effect :=
  match rs.rules.reverse.find? fun r => r.appliesTo action type && r.speaksOf subject with
  | some r => r.effect
  | none => .deny

/-- Whether the action is allowed on a subject. -/
def can {α : Type} [Subject α] (rs : RuleSet) (action : Action) (s : α) : Bool :=
  (rs.resolve action (Subject.subjectType s) (some s)).isAllow

/-- Whether the action is allowed on some subjects of a type. -/
def canOnType (rs : RuleSet) (action : Action) (type : SubjectType) : Bool :=
  (rs.resolve action type (none : Option Record)).isAllow

/-- What one more rule makes of the filter of the rules below it. -/
def narrow (acc : Filter) (r : Rule) : Filter :=
  match r.effect with
  | .allow => r.scope.or acc
  | .deny => r.scope.not.and acc

/-- **The filter of the subjects** of a type on which an action is allowed. -/
def filterFor (rs : RuleSet) (action : Action) (type : SubjectType) : Filter :=
  (rs.rules.filter fun r => r.appliesTo action type).foldl narrow .fail

end RuleSet

end RowGuard
