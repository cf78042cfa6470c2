import RowGuard.Proofs.Clients.Basic
import RowGuard.Proofs.Guard.ById
import RowGuard.Proofs.Guard.Questions

/-!
# Queries one after the other

A history is a list of requests. Each puts a query to the store, as it is or through the guard, and
nothing comes between its questions. Whatever the query, at most one of its questions changes the
store, and that one differs from the query in nothing but its filter (`Request.run_cases`).

* `Store.after`: the store after a history
* `Store.made`: how many rows of each type a history made, and `Store.Counted.after`
-/

set_option autoImplicit false

namespace RowGuard

/-- **A query put to the store** at a clock reading. The fields it supplies are a map. -/
structure Request where
  access : Access
  query : Query
  now : Timestamp
  ascending : ∀ data, query.data = some data → data.Ascending

namespace Store

variable {s : Store} {q : Query} (context : Option RequestContext) (now : Timestamp)

/-- A creation succeeds where fields are supplied for it. -/
theorem isOk_create (s : Store) (hc : q.operation = .create) :
    (s.execute now q).1.isOk = q.data.isSome := by
  obtain ⟨model, operation, id, filter, data, aggregation⟩ := q
  cases hc
  cases data <;> rfl

theorem executeIn_create (hc : q.operation = .create) :
    s.executeIn context now q =
      (Guard.create (effectiveRules context) q).run (Store.execute now) s := by
  unfold executeIn guarded
  rw [if_pos hc]

/-- **A creation is carried out** if the rules allow its draft. -/
theorem executeIn_draft (hc : q.operation = .create) {data : Fields} (hd : q.data = some data) :
    s.executeIn context now q =
      if (effectiveRules context).can .create (Draft.mk q.model data) then s.execute now q
      else (.error .forbidden, s) := by
  rw [executeIn_create context now hc, Guard.create, hd]
  dsimp only
  split <;> rfl

/-- A creation for which no fields are supplied fails. -/
theorem executeIn_without_data (hc : q.operation = .create) (hd : q.data = none) :
    s.executeIn context now q =
      (.error (.invalidInput ("create on " ++ q.model.name ++ " requires data")), s) := by
  rw [executeIn_create context now hc, Guard.create, hd]
  rfl

/-- The store after a write that may go out is the one that the narrowed query leaves. -/
theorem store_after_write {id : Int64} {r : Record} (hb : q.operation.isById = true)
    (hop : q.operation ≠ .findUnique) (hid : q.id = some id)
    (hfound : (s.row q.model id).filter q.filter.admits = some r)
    (hcan : (effectiveRules context).can q.operation.action r = true) :
    (s.executeIn context now q).2 =
      (s.execute now (Guard.narrowed (effectiveRules context) q)).2 := by
  rw [executeIn_byId context now hb hid, hfound, Guard.afterLookup, hcan,
    if_neg (by decide), if_neg hop, Guard.write, Dialogue.run]
  dsimp only
  split <;> rfl

/-- **Everything a guarded query can do**: leave the store as it is, and fail if it is a creation,
or carry out one question. -/
theorem executeIn_cases (s : Store) (q : Query) :
    ((s.executeIn context now q).2 = s ∧
      (q.operation = .create → ∃ e, (s.executeIn context now q).1 = .error e)) ∨
    ∃ asked, asked = { q with filter := asked.filter } ∧
      Guard.Fit (effectiveRules context) q asked ∧
      (s.executeIn context now q).2 = (s.execute now asked).2 ∧
      (q.operation = .create → (s.executeIn context now q).1 = (s.execute now asked).1) := by
  by_cases hc : q.operation = .create
  · rcases Option.eq_none_or_eq_some q.data with hd | ⟨data, hd⟩
    · rw [executeIn_without_data context now hc hd]
      exact .inl ⟨rfl, fun _ => ⟨_, rfl⟩⟩
    · rw [executeIn_draft context now hc hd]
      by_cases hcan : (effectiveRules context).can .create (Draft.mk q.model data) = true
      · rw [if_pos hcan]
        exact .inr ⟨q, rfl, .create hc hd hcan, rfl, fun _ => rfl⟩
      · rw [if_neg hcan]
        exact .inl ⟨rfl, fun _ => ⟨_, rfl⟩⟩
  by_cases hb : q.operation.isById = true
  -- without a write the lookup is the only question, and it changes nothing
  · have hkeep : ∀ outcome, s.executeIn context now q = (outcome, s) →
        (s.executeIn context now q).2 = s ∧
          (q.operation = .create → ∃ e, (s.executeIn context now q).1 = .error e) :=
      fun outcome h => ⟨congrArg Prod.snd h, fun h => absurd h hc⟩
    rcases Option.eq_none_or_eq_some q.id with hid | ⟨id, hid⟩
    · exact .inl (hkeep _ (executeIn_without_id context now hb hid))
    cases hfound : (s.row q.model id).filter q.filter.admits with
    | none => exact .inl (hkeep _ (executeIn_missing context now hb hid hfound))
    | some r =>
      cases hcan : (effectiveRules context).can q.operation.action r with
      | false => exact .inl (hkeep _ (executeIn_forbidden context now hb hid hfound hcan))
      | true =>
        by_cases hop : q.operation = .findUnique
        · exact .inl (hkeep _ (executeIn_found context now hid hfound hcan hop))
        · exact .inr ⟨_, rfl, .narrowed hc, store_after_write context now hb hop hid hfound hcan,
            fun h => absurd h hc⟩
  · have hbulk := executeIn_bulk (s := s) context now hc (Bool.eq_false_iff.2 hb)
    exact .inr ⟨_, rfl, .narrowed hc, congrArg Prod.snd hbulk, fun h => absurd h hc⟩

end Store

namespace Request

/-- **A request carried out**: its answer, and the store after it. -/
def run (r : Request) (s : Store) : Result Output × Store :=
  (r.access.dialogue r.query).run (Store.execute r.now) s

/-- How many rows a request makes: one if it is a creation that succeeds. -/
def makes (r : Request) (s : Store) : Nat :=
  if r.query.operation = .create ∧ (r.run s).1.isOk then 1 else 0

/-- **The one question of a request that may change the store**: the query but for its filter, and
fit for the rules of the context if there is a guard. -/
structure Puts (r : Request) (asked : Query) : Prop where
  same : asked = { r.query with filter := asked.filter }
  fit : ∀ context, r.access = .inContext context →
    Guard.Fit (effectiveRules context) r.query asked

variable (r : Request) (s : Store)

/-- **Everything a request can do.** -/
theorem run_cases :
    ((r.run s).2 = s ∧ (r.query.operation = .create → ∃ e, (r.run s).1 = .error e)) ∨
    ∃ asked, r.Puts asked ∧ (r.run s).2 = (s.execute r.now asked).2 ∧
      (r.query.operation = .create → (r.run s).1 = (s.execute r.now asked).1) := by
  obtain ⟨access, q, now, hfields⟩ := r
  cases access with
  | raw => exact .inr ⟨q, ⟨rfl, nofun⟩, rfl, fun _ => rfl⟩
  | inContext context =>
    rcases Store.executeIn_cases context now s q with hkeep | ⟨asked, hsame, hfit, hrun⟩
    · exact .inl hkeep
    · refine .inr ⟨asked, ⟨hsame, fun context' h => ?_⟩, hrun⟩
      cases h
      exact hfit

/-- What a request makes is what its one question makes. -/
theorem makes_of_puts {asked : Query} (h : r.Puts asked)
    (hanswer : r.query.operation = .create → (r.run s).1 = (s.execute r.now asked).1) :
    r.makes s = asked.makes := by
  have hop : asked.operation = r.query.operation := by rw [h.same]
  unfold makes Query.makes
  by_cases hc : r.query.operation = .create
  · rw [hanswer hc, hop, Store.isOk_create r.now s (hop.trans hc)]
  · rw [if_neg fun h => hc h.1, if_neg fun h => hc (hop.symm.trans h.1)]

theorem makes_of_error (h : r.query.operation = .create → ∃ e, (r.run s).1 = .error e) :
    r.makes s = 0 := by
  refine if_neg fun hc => ?_
  obtain ⟨e, he⟩ := h hc.1
  have hok := hc.2
  rw [he] at hok
  cases hok

theorem makes_le : r.makes s ≤ 1 := by unfold makes; split <;> omega

end Request

namespace Store

/-- **The store after a history.** -/
def after (s : Store) (history : List Request) : Store :=
  history.foldl (fun s r => (r.run s).2) s

/-- **How many rows of each type a history makes.** -/
def made : Store → List Request → SubjectType → Nat
  | _, [], _ => 0
  | s, r :: rest, model =>
    (if model = r.query.model then r.makes s else 0) + made (r.run s).2 rest model

variable {s : Store}

theorem after_append (past rest : List Request) :
    s.after (past ++ rest) = (s.after past).after rest := List.foldl_append ..

theorem made_append (past rest : List Request) (model : SubjectType) :
    s.made (past ++ rest) model = s.made past model + (s.after past).made rest model := by
  induction past generalizing s with
  | nil => exact (Nat.zero_add _).symm
  | cons r past ih => rw [List.cons_append, made, ih, made, Nat.add_assoc]; rfl

/-- A history makes at most one row a request. -/
theorem made_le_length (history : List Request) (model : SubjectType) :
    s.made history model ≤ history.length := by
  induction history generalizing s with
  | nil => exact Nat.le_refl 0
  | cons r rest ih =>
    have hrest := ih (s := (r.run s).2)
    have hfirst := r.makes_le s
    rw [made, List.length_cons]
    split <;> omega

theorem Sound.run (h : s.Sound) (r : Request) : (r.run s).2.Sound := by
  rcases r.run_cases s with ⟨hkeep, -⟩ | ⟨asked, -, hrun, -⟩
  · rw [hkeep]; exact h
  · rw [hrun]; exact h.execute r.now asked

theorem Sound.after (h : s.Sound) (history : List Request) : (s.after history).Sound := by
  induction history generalizing s with
  | nil => exact h
  | cons r rest ih => exact ih (h.run r)

theorem Counted.run {n : SubjectType → Nat} (h : s.Counted n) (hs : s.Sound) (r : Request) :
    (r.run s).2.Counted fun model => n model + if model = r.query.model then r.makes s else 0 := by
  rcases r.run_cases s with ⟨hkeep, herror⟩ | ⟨asked, hputs, hrun, hanswer⟩
  · rw [hkeep, r.makes_of_error s herror]
    intro model
    dsimp only
    rw [ite_self]
    exact h model
  · have hmodel : asked.model = r.query.model := by rw [hputs.same]
    rw [hrun, r.makes_of_puts s hputs hanswer, ← hmodel]
    exact h.execute hs r.now asked

/-- **A history counts the rows it makes.** -/
theorem Counted.after {n : SubjectType → Nat} (h : s.Counted n) (hs : s.Sound)
    (history : List Request) :
    (s.after history).Counted fun model => n model + s.made history model := by
  induction history generalizing s n with
  | nil => exact h
  | cons r rest ih =>
    intro model
    have hrest := ih (h.run hs r) (hs.run r) model
    dsimp only at hrest
    rwa [Nat.add_assoc] at hrest

theorem counted_after (history : List Request) :
    (empty.after history).Counted (empty.made history) := by
  intro model
  have h := Counted.empty.after sound_empty history model
  dsimp only at h
  rwa [Nat.zero_add] at h

end Store

end RowGuard
