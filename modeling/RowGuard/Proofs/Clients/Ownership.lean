import RowGuard.Proofs.Clients.History
import RowGuard.Proofs.Rule.Policy

/-!
# What a caller does not own stays as it is

A guarded query leaves a row alone when the rules deny to update and to delete it, and a type alone
when they also deny to create rows of it (`Request.row_kept`, `Request.table_kept`). Either goes on
through a history in one context, though rows that may be written change in the meantime.

So a history without a caller, or of one who is refused, changes nothing at all, and that of an
ordinary user changes posts of the user only (`ordinary_history_keeps_what_is_not_owned`).
-/

set_option autoImplicit false

namespace RowGuard

/-- **Rules that protect a row**: it may be neither changed nor removed. -/
def RuleSet.Protects (rules : RuleSet) (row : Record) : Prop :=
  rules.can .update row = false ∧ rules.can .delete row = false

/-- **Rules that close a type**: no row of it may be made, changed or removed. -/
structure RuleSet.Closes (rules : RuleSet) (model : SubjectType) : Prop where
  create : ∀ data, rules.can .create (Draft.mk model data) = false
  protect : ∀ row : Record, row.model = model → rules.Protects row

/-- What is denied is not lawful, as long as new rows take free identifiers. -/
theorem Lawful.false_of_denied {rules : RuleSet} {q : Query} {now : Timestamp} {turns : Nat}
    {id : Int64} {before after : Option Record} (h : Lawful rules q now turns id before after)
    (hprotect : ∀ row, before = some row → rules.Protects row)
    (hcreate : (∀ data, rules.can .create (Draft.mk q.model data) = false) ∨
      before ≠ none ∧ turns < 2 ^ 64) : False := by
  cases h with
  | write after hop hcan hfilter hid =>
    obtain ⟨hupdate, hdelete⟩ := hprotect _ rfl
    rcases hop with hop | hop
    · rw [hop, hupdate] at hcan; cases hcan
    · rw [hop, hdelete] at hcan; cases hcan
  | make hop hd hcan hfree =>
    rcases hcreate with hdenied | ⟨htaken, hturns⟩
    · rw [hdenied] at hcan; cases hcan
    · rcases hfree with hnone | hwrapped
      · exact htaken hnone
      · omega

/-- A question that creates a row is allowed to. -/
theorem Guard.Fit.draft_allowed {rules : RuleSet} {q asked : Query} (h : Guard.Fit rules q asked)
    (hc : asked.operation = .create) :
    ∃ data, rules.can .create (Draft.mk asked.model data) = true := by
  cases h with
  | lookup id => cases hc
  | create hop hd hcan => exact ⟨_, hcan⟩
  | narrowed hop => exact absurd hc hop

namespace Request

variable {s : Store} {n : SubjectType → Nat} {r : Request} {context : Option RequestContext}
  {model : SubjectType} (hs : s.Sound) (hn : s.Counted n) (ha : r.access = .inContext context)

include hs hn ha in
/-- **A protected row is left alone** by a request. -/
theorem row_kept {id : Int64}
    (hprotect : ∀ row, s.row model id = some row → (effectiveRules context).Protects row)
    (hcreate : (∀ data, (effectiveRules context).can .create (Draft.mk model data) = false) ∨
      s.row model id ≠ none ∧ n model < 2 ^ 64) :
    (r.run s).2.row model id = s.row model id := by
  by_contra hne
  rcases r.run_cases s with ⟨hkeep, -⟩ | ⟨asked, hputs, hrun, -⟩
  · exact hne (by rw [hkeep])
  · rw [hrun] at hne
    obtain ⟨hmodel, hlawful⟩ := (hputs.fit context ha).lawful_of_counted r.now hs
      (hn r.query.model) (Nat.le_refl _) hne
    subst hmodel
    exact hlawful.false_of_denied hprotect hcreate

include hs hn ha in
/-- **A closed type is left alone** by a request. -/
theorem table_kept (hclosed : (effectiveRules context).Closes model) :
    (r.run s).2.table model = s.table model := by
  have hrows : ((r.run s).2.table model).rows = (s.table model).rows := by
    refine (hs.run r model).ascending.ext (hs model).ascending fun id => ?_
    refine row_kept hs hn ha (fun row hrow => ?_) (.inl hclosed.create)
    exact hclosed.protect row ((hs model).filed hrow).2
  have hlast : ((r.run s).2.table model).lastId = (s.table model).lastId := by
    rcases r.run_cases s with ⟨hkeep, -⟩ | ⟨asked, hputs, hrun, -⟩
    · rw [hkeep]
    · rw [hrun]
      by_cases hc : asked.operation = .create
      · obtain ⟨data, hcan⟩ := (hputs.fit context ha).draft_allowed hc
        have hmodel : model ≠ asked.model := by
          rintro rfl
          rw [hclosed.create] at hcan
          cases hcan
        rw [Store.table_execute, if_neg hmodel]
      · exact Store.lastId_execute r.now asked s hc model
  exact Table.ext hlast hrows

end Request

namespace Store

variable {s : Store} {n : SubjectType → Nat} {requests : List Request}
  {context : Option RequestContext} {model : SubjectType}

/-- **A closed type is left alone** by a history in the context. -/
theorem table_after_of_closed (hs : s.Sound) (hn : s.Counted n)
    (hcontext : ∀ r ∈ requests, r.access = .inContext context)
    (hclosed : (effectiveRules context).Closes model) :
    (s.after requests).table model = s.table model := by
  induction requests generalizing s n with
  | nil => rfl
  | cons r rest ih =>
    obtain ⟨hfirst, hrest⟩ := List.forall_mem_cons.1 hcontext
    have hlater := ih (hs.run r) (hn.run hs r) hrest
    exact hlater.trans (r.table_kept hs hn hfirst hclosed)

/-- **A protected row is left alone** by a history in the context that does not start the count of
identifiers over. -/
theorem row_after_of_protected (hs : s.Sound) (hn : s.Counted n)
    (hcontext : ∀ r ∈ requests, r.access = .inContext context)
    (hfew : n model + s.made requests model < 2 ^ 64) {id : Int64} {row : Record}
    (hrow : s.row model id = some row) (hprotect : (effectiveRules context).Protects row) :
    (s.after requests).row model id = some row := by
  induction requests generalizing s n with
  | nil => exact hrow
  | cons r rest ih =>
    obtain ⟨hfirst, hrest⟩ := List.forall_mem_cons.1 hcontext
    rw [made] at hfew
    have hkept : (r.run s).2.row model id = some row := by
      rw [r.row_kept hs hn hfirst, hrow]
      · intro row' hrow'
        rw [hrow, Option.some.injEq] at hrow'
        exact hrow' ▸ hprotect
      · exact .inr ⟨by rw [hrow]; exact Option.some_ne_none row, by omega⟩
    have hcount : n model + (if model = r.query.model then r.makes s else 0) +
        (r.run s).2.made rest model < 2 ^ 64 := by rwa [Nat.add_assoc]
    exact ih (hs.run r) (hn.run hs r) hrest hcount hkept

end Store

/-! ## The policy -/

/-- Whether a post names a user as its author, as filters compare values. -/
def Record.isPostOf (row : Record) (id : Int64) : Bool :=
  row.model == .post && (Filter.eq authorField (.ofId id)).admits row

namespace RuleSet

theorem closes_denyAll (model : SubjectType) : denyAll.Closes model :=
  ⟨fun _ => can_denyAll .create _, fun _ _ => ⟨can_denyAll .update _, can_denyAll .delete _⟩⟩

theorem closes_anonymous (model : SubjectType) : anonymous.Closes model :=
  ⟨fun _ => can_anonymous .create _, fun _ _ => ⟨can_anonymous .update _, can_anonymous .delete _⟩⟩

/-- **The rules of a user protect** whatever is not a post of the user. -/
theorem owner_protects {id : Int64} {row : Record} (hrow : row.isPostOf id = false) :
    (owner id).Protects row := by
  have hdenied : ∀ action, action ≠ .read → action ≠ .create →
      (owner id).can action row = false := by
    intro action hread hcreate
    rw [can_owner, beq_false_of_ne hread, beq_false_of_ne hcreate, Bool.false_or, Bool.false_or]
    exact hrow
  exact ⟨hdenied .update (by decide) (by decide), hdenied .delete (by decide) (by decide)⟩

theorem owner_closes {id : Int64} {model : SubjectType} (hmodel : model ≠ .post) :
    (owner id).Closes model := by
  refine ⟨fun data => ?_, fun row hrow => owner_protects ?_⟩
  · rw [can_owner]
    have hne : (Subject.subjectType (Draft.mk model data) == .post) = false :=
      beq_false_of_ne hmodel
    rw [hne]
    rfl
  · rw [Record.isPostOf, hrow, beq_false_of_ne hmodel, Bool.false_and]

end RuleSet

namespace Store

/-- **Only an administrator's history alters what the caller does not own.** Take any reachable
store and any history of queries in one context. Without a context, without a caller or with a
caller whose identifier is not positive, the history changes nothing. That of an ordinary user makes
no row but posts, and leaves every row as it is that is not a post of the user, unless so many posts
were made that the count of their identifiers started over. -/
theorem ordinary_history_keeps_what_is_not_owned (past requests : List Request)
    (context : Option RequestContext) (hcontext : ∀ r ∈ requests, r.access = .inContext context) :
    let s := empty.after past
    let s' := s.after requests
    (context = none ∨ context = some .anonymous ∨ context = some (.forCaller none) ∨
      (∃ c : Caller, c.id ≤ 0 ∧ context = some (.forCaller (some c))) → s' = s) ∧
    ∀ c : Caller, c.role = .user → 0 < c.id → context = some (.forCaller (some c)) →
      (∀ model, model ≠ .post → s'.table model = s.table model) ∧
      ∀ model id row, s.row model id = some row → row.isPostOf c.id = false →
        s'.row model id = some row ∨
          model = .post ∧ 2 ^ 64 ≤ empty.made (past ++ requests) .post := by
  intro s s'
  have hs : s.Sound := sound_empty.after past
  have hn : s.Counted (empty.made past) := counted_after past
  have hclosed : ∀ model, (effectiveRules context).Closes model → s'.table model = s.table model :=
    fun model => table_after_of_closed hs hn hcontext
  refine ⟨fun hreads => ?_, fun c hrole hid hcaller => ?_⟩
  · refine eq_of_tables fun model => hclosed model ?_
    rcases hreads with rfl | rfl | rfl | ⟨c, hid, rfl⟩
    · exact RuleSet.closes_anonymous model
    · exact RuleSet.closes_anonymous model
    · exact RuleSet.closes_anonymous model
    · rw [effectiveRules, RequestContext.rules_forCaller_refused hid]
      exact RuleSet.closes_denyAll model
  -- an owner's rules close every other type, and protect the posts of others
  · have hrules : effectiveRules context = .owner c.id := by
      rw [hcaller, effectiveRules, RequestContext.rules_forCaller_user hid hrole]
    have hothers : ∀ model, model ≠ .post → s'.table model = s.table model := by
      intro model hmodel
      refine hclosed model ?_
      rw [hrules]
      exact RuleSet.owner_closes hmodel
    refine ⟨hothers, fun model id row hrow hforeign => ?_⟩
    by_cases hmodel : model = .post
    · subst hmodel
      by_cases hfew : empty.made (past ++ requests) .post < 2 ^ 64
      · have hcount : empty.made past .post + s.made requests .post < 2 ^ 64 := by
          rwa [made_append] at hfew
        refine .inl (row_after_of_protected hs hn hcontext hcount hrow ?_)
        rw [hrules]
        exact RuleSet.owner_protects hforeign
      · exact .inr ⟨rfl, Nat.not_lt.1 hfew⟩
    · have hrows : s'.row model id = s.row model id := by
        rw [Store.row, hothers model hmodel]
        rfl
      exact .inl (hrows.trans hrow)

/-- A post made for a user. -/
def postFor (author : Int64) : Request where
  access := .raw
  query := .create .post [(authorField, .ofId author)]
  now := dayOne
  ascending := by
    rintro data ⟨⟩
    exact List.pairwise_singleton ..

/-- User 1 asks to delete every post. -/
def clearance : Request :=
  ⟨.inContext (some (.forCaller (some (.user 1)))), .deleteMany .post .pass, dayOne, nofun⟩

/-- User 1 deletes every post, which leaves the post of user 2. -/
theorem clearance_keeps_post_of_other :
    let posts := [postFor 1, postFor 2]
    (empty.after (posts ++ [clearance])).row .post 1 = none ∧
    ∃ row, (empty.after posts).row .post 2 = some row ∧ row.isPostOf 1 = false ∧
      (empty.after (posts ++ [clearance])).row .post 2 = some row := by
  intro posts
  obtain ⟨row, hrow, hforeign⟩ : ∃ row, (empty.after posts).row .post 2 = some row ∧
      row.isPostOf 1 = false := ⟨_, rfl, rfl⟩
  refine ⟨rfl, row, hrow, hforeign, ?_⟩
  obtain ⟨-, huser⟩ := ordinary_history_keeps_what_is_not_owned posts [clearance]
    (some (.forCaller (some (.user 1)))) fun r hr => by rw [List.mem_singleton.1 hr]; rfl
  obtain ⟨-, hkept⟩ := huser (.user 1) rfl (by decide) rfl
  rcases hkept .post 2 row hrow hforeign with hkept | ⟨-, hmany⟩
  · rw [after_append]
    exact hkept
  · have hfew := made_le_length (s := empty) (posts ++ [clearance]) .post
    exact absurd (Nat.le_trans hmany hfew) (by decide)

end Store

end RowGuard
