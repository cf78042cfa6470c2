import RowGuard.Codec.Query
import RowGuard.Codec.Rule
import RowGuard.Post.Basic
import RowGuard.Proofs.Codec.Fields

/-!
# What is written is read back

Each type that travels as JSON is read back as it was written, whatever its optional parts and
however deep its filters: a reader neither refuses what the writer of its type wrote nor takes it
for another value. Parts come before the wholes they are parts of:

* `Filter.ofJson?_toJson`: filters, by their structure
* `Condition.readsBack`, `Rule.readsBack`: rules with or without a condition
* `codecs_read_back`: every type
-/

set_option autoImplicit false

namespace RowGuard

/-! ### Names

Every name is that of one value, and is not taken for another one. -/

theorem Comparison.readsBack : ReadsBack (fun op => .string op.name) ofJson? := by
  intro op
  cases op <;> rfl

theorem Effect.readsBack : ReadsBack (fun e => .string e.name) ofJson? := by
  intro e
  cases e <;> rfl

theorem Action.readsBack : ReadsBack (fun a => .string a.name) ofJson? := by
  intro a
  cases a <;> rfl

theorem SubjectType.readsBack : ReadsBack (fun t => .string t.name) ofJson? := by
  intro t
  cases t <;> rfl

theorem Role.readsBack : ReadsBack (fun r => .string r.name) ofJson? := by
  intro r
  cases r <;> rfl

theorem Operation.readsBack : ReadsBack toJson ofJson? := by
  intro op
  cases op <;> rfl

theorem AggregateKind.readsBack :
    ReadsBack (fun k => .string k.name) (Json.variant? AggregateKind.ofName?) := by
  intro k
  cases k <;> rfl

/-! ### Filters -/

namespace Filter

/-- A filter is written as a string or as an object with one key, so that the part of a negation is
not taken for null or for a list of parts. -/
theorem toJson_shape (f : Filter) :
    (∃ s, f.toJson = .string s) ∨ ∃ key v, f.toJson = .object [(key, v)] := by
  cases f with
  | const b => exact .inl ⟨_, rfl⟩
  | test op field value => exact .inr ⟨_, _, rfl⟩
  | join c parts => exact .inr ⟨_, _, rfl⟩
  | negate f => exact .inr ⟨_, _, rfl⟩

/-- A negation is read from its part. -/
theorem ofJson?_negation (f : Filter) :
    ofJson? (.object [("not", f.toJson)]) = (ofJson? f.toJson).map negate := by
  obtain ⟨s, hs⟩ | ⟨key, v, hv⟩ := toJson_shape f
  · rw [hs]
    simp [ofJson?]
  · rw [hv]
    simp [ofJson?]

/-- A connective is read from its parts. -/
theorem ofJson?_connective (c : Connective) (elems : List Json) :
    ofJson? (.object [(c.key, .array elems)]) = (ofJsonList? elems).map (join c) := by
  cases c with
  | all => simp [ofJson?, Connective.key]
  | any => simp [ofJson?, Connective.key]

/-- A comparison is read from its field and its value. -/
theorem ofJson?_comparison (op : Comparison) (field : String) (value : Json) :
    ofJson? (.object [(op.name, .array [.string field, value])]) = some (test op field value) := by
  -- no name of a comparison is the key of a connective
  have hand : op.name ≠ "and" := by cases op <;> decide
  have hor : op.name ≠ "or" := by cases op <;> decide
  have hread : Comparison.ofName? op.name = some op := Comparison.readsBack op
  simp [ofJson?, hand, hor, hread]

mutual

/-- **A filter is read back** as it was written, with nothing simplified. -/
theorem ofJson?_toJson : (f : Filter) → ofJson? f.toJson = some f
  | const b => by cases b <;> simp [toJson, ofJson?, constant?, pass, fail]
  | test op field value => by
    rw [toJson]
    exact ofJson?_comparison op field value
  | join c parts => by
    rw [toJson, ofJson?_connective, ofJsonList?_toJsonList parts, Option.map_some]
  | negate f => by
    rw [toJson, ofJson?_negation, ofJson?_toJson f, Option.map_some]

/-- The parts are read back one by one. -/
theorem ofJsonList?_toJsonList : (fs : List Filter) → ofJsonList? (toJsonList fs) = some fs
  | [] => by simp [toJsonList, ofJsonList?]
  | f :: rest => by
    rw [toJsonList, ofJsonList?, ofJson?_toJson f, ofJsonList?_toJsonList rest]

end

end Filter

/-! ### Rules -/

theorem Predicate.readsBack : ReadsBack toJson ofJson? := by
  intro p
  -- a value is taken as it stands, null included
  have hvalue : ReadsBack id (some : Json → Option Json) := fun _ => rfl
  simp [ofJson?, toJson, Json.members?, Keyed.get?,
    Fields.required_of_get? Json.readsBack_string (a := p.field),
    Fields.required_of_get? Comparison.readsBack (a := p.op),
    Fields.required_of_get? hvalue (a := p.value)]

theorem Condition.readsBack : ReadsBack toJson ofJson? := by
  intro c
  have hpredicates := Json.readsBack_list Predicate.readsBack
  simp [ofJson?, toJson, Json.members?, Keyed.get?,
    Fields.required_of_get? hpredicates (a := c.predicates)]

/-- **A rule is read back**, with or without a condition. -/
theorem Rule.readsBack : ReadsBack toJson ofJson? := by
  intro r
  -- a condition is written as an object, so that it is not taken for an absent one
  have hthere : ∀ c : Condition, c.toJson ≠ .null := fun _ => nofun
  simp [ofJson?, toJson, Json.members?, Keyed.get?, Keyed.get?_present_append,
    Fields.required_of_get? Effect.readsBack (a := r.effect),
    Fields.required_of_get? Action.readsBack (a := r.action),
    Fields.required_of_get? SubjectType.readsBack (a := r.subject),
    Fields.optional_of_get? Condition.readsBack hthere (o := r.condition)]

theorem RuleSet.readsBack : ReadsBack toJson ofJson? := by
  intro rs
  have hrules := Json.readsBack_list Rule.readsBack
  simp [ofJson?, toJson, Json.members?, Keyed.get?, Fields.required_of_get? hrules (a := rs.rules)]

/-! ### Callers and records -/

/-- Attributes are read one by one, each under its name. -/
theorem attributes_readsBack :
    ReadsBack (fun as => .object (as.map fun p => (p.1, .string p.2))) attributes? := by
  intro as
  have hread : attributes? (.object (as.map fun p => (p.1, .string p.2))) =
      (as.map fun p => (p.1, Json.string p.2)).mapM attribute? := rfl
  rw [hread]
  induction as with
  | nil => rfl
  | cons p rest ih =>
    rw [List.map_cons, List.mapM_cons, ih rfl]
    rfl

/-- **A caller is read back**, with or without an address. -/
theorem Caller.readsBack : ReadsBack toJson ofJson? := by
  intro c
  simp [ofJson?, toJson, Json.members?, Keyed.get?, Keyed.get?_present_append,
    Fields.required_of_get? Json.readsBack_id (a := c.id),
    Fields.optional_of_get? Json.readsBack_string Json.string_ne_null (o := c.email),
    Fields.required_of_get? Role.readsBack (a := c.role),
    Fields.defaulted_of_get? attributes_readsBack [] (a := c.attributes)]

theorem Record.readsBack : ReadsBack toJson ofJson? := by
  intro r
  simp [ofJson?, toJson, Json.members?, Keyed.get?,
    Fields.required_of_get? SubjectType.readsBack (a := r.model),
    Fields.required_of_get? Json.readsBack_id (a := r.id),
    Fields.required_of_get? Json.readsBack_fields (a := r.data)]

/-! ### Queries and posts -/

theorem Aggregation.readsBack : ReadsBack toJson ofJson? := by
  intro a
  simp [ofJson?, toJson, Keyed.get?,
    Fields.required_of_get? AggregateKind.readsBack (a := a.kind),
    Fields.required_of_get? Json.readsBack_string (a := a.field)]

theorem NewPost.readsBack : ReadsBack toJson ofJson? := by
  intro p
  simp [ofJson?, toJson, toFields, Json.members?, Keyed.get?, Keyed.get?_present_append,
    Fields.required_of_get? Json.readsBack_string (a := p.title),
    Fields.optional_of_get? Json.readsBack_string Json.string_ne_null (o := p.content),
    Fields.defaulted_of_get? Json.readsBack_bool false (a := p.published)]

/-- **Changes are read back**: a field that is not changed stays out. -/
theorem PostChanges.readsBack : ReadsBack toJson ofJson? := by
  intro c
  have hthere : ∀ b, Json.bool b ≠ .null := fun _ => nofun
  simp [ofJson?, toJson, toFields, Json.members?, Keyed.get?_present, Keyed.get?_present_append,
    Fields.optional_of_get? Json.readsBack_string Json.string_ne_null (o := c.title),
    Fields.optional_of_get? Json.readsBack_string Json.string_ne_null (o := c.content),
    Fields.optional_of_get? Json.readsBack_bool hthere (o := c.published)]

/-! ### Every type -/

/-- **What is written is read back**: for every value of a type that travels as JSON, its reader
succeeds on what its writer wrote and gives the value itself. -/
theorem codecs_read_back :
    ReadsBack Caller.toJson Caller.ofJson? ∧
    ReadsBack Record.toJson Record.ofJson? ∧
    ReadsBack Filter.toJson Filter.ofJson? ∧
    ReadsBack Predicate.toJson Predicate.ofJson? ∧
    ReadsBack Condition.toJson Condition.ofJson? ∧
    ReadsBack Rule.toJson Rule.ofJson? ∧
    ReadsBack RuleSet.toJson RuleSet.ofJson? ∧
    ReadsBack Operation.toJson Operation.ofJson? ∧
    ReadsBack Aggregation.toJson Aggregation.ofJson? ∧
    ReadsBack NewPost.toJson NewPost.ofJson? ∧
    ReadsBack PostChanges.toJson PostChanges.ofJson? :=
  ⟨Caller.readsBack, Record.readsBack, Filter.ofJson?_toJson, Predicate.readsBack,
    Condition.readsBack, Rule.readsBack, RuleSet.readsBack, Operation.readsBack,
    Aggregation.readsBack, NewPost.readsBack, PostChanges.readsBack⟩

end RowGuard
