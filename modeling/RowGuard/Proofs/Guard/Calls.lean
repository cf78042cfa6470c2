import RowGuard.Guard
import RowGuard.Proofs.Rule.Agreement

/-!
# What reaches a backend

The guard trusts no backend. Whatever it is answered, be it an error, an answer of the wrong kind, a
record of another type or nothing where there was a record before, what it asks next is determined
by the rules: a record is written only after a lookup that found one on which the rules allow the
action, and every other query goes out narrowed to what they allow.

* `Dialogue.calls`: what a dialogue asks a backend, and what it is answered
* `Guard.Forwarded`: a query that is passed on with a narrower filter
* `Guard.afterLookup_continues`: what may follow the answer to a lookup
* `guarded_overseen`: the calls and the outcome of any query with any backend
-/

set_option autoImplicit false

namespace RowGuard

/-- **The calls of a dialogue** with a backend, in order: each question with its answer. -/
def Dialogue.calls {α σ : Type} (backend : Query → σ → Result Output × σ) :
    Dialogue α → σ → List (Query × Result Output)
  | done _, _ => []
  | ask q next, s =>
    let (answer, s') := backend q s
    (q, answer) :: calls backend (next answer) s'

namespace Guard

variable (rules : RuleSet) (q : Query)

/-- **A query passed on**: the same query but for its filter, which passes what the query's own
filter passes and the rules allow. -/
structure Forwarded (asked : Query) : Prop where
  same : asked = { q with filter := asked.filter }
  admits : ∀ {α : Type} [Subject α] (x : α), asked.filter.admits x = true ↔
    q.filter.admits x = true ∧ rules.resolve q.operation.action q.model (some x) = .allow

/-- **What may follow the answer to a lookup**: the calls after it, and the outcome. -/
structure Continues (found : Result Output) (rest : List (Query × Result Output))
    (outcome : Result Output) : Prop where
  /-- Nothing is asked after a lookup that found no record on which the action is allowed. -/
  permitted : rest ≠ [] → q.operation ≠ .findUnique ∧
    ∃ r, found = .ok (.record (some r)) ∧ rules.can q.operation.action r = true
  failed : ∀ e, found = .error e → rest = [] ∧ outcome = .error e
  missing : found = .ok (.record none) → rest = [] ∧ ∃ what, outcome = .error (.notFound what)
  mistaken : ∀ output, found = .ok output → (∀ r, output ≠ .record r) →
    rest = [] ∧ ∃ what, outcome = .error (.unexpectedOutput what)
  forbidden : ∀ r, found = .ok (.record (some r)) → rules.can q.operation.action r = false →
    rest = [] ∧ outcome = .error .forbidden
  /-- A write is asked once. Its answer is passed on, unless the record is gone by then. -/
  written : ∀ r, found = .ok (.record (some r)) → rules.can q.operation.action r = true →
    q.operation ≠ .findUnique → ∃ asked answer, rest = [(asked, answer)] ∧ Forwarded rules q asked ∧
      (answer ≠ .ok (.record none) → outcome = answer) ∧
      (answer = .ok (.record none) → ∃ what, outcome = .error (.notFound what))
  /-- A record is returned only as it was found, and where the rules allow to read it. -/
  returned : q.operation = .findUnique → ∀ output, outcome = .ok output →
    ∃ r, output = .record (some r) ∧ found = .ok output ∧ rules.can .read r = true

/-- **A query overseen by the rules**: its calls to a backend, and its outcome. -/
structure Overseen (calls : List (Query × Result Output)) (outcome : Result Output) : Prop where
  few : calls.length ≤ 2
  /-- A new record is asked for as the caller wants it, if its fields are supplied and allowed. -/
  create : q.operation = .create →
    (q.data = none → calls = [] ∧ ∃ reason, outcome = .error (.invalidInput reason)) ∧
    ∀ data, q.data = some data →
      (rules.can .create (Draft.mk q.model data) = false →
        calls = [] ∧ outcome = .error .forbidden) ∧
      (rules.can .create (Draft.mk q.model data) = true → calls = [(q, outcome)])
  /-- A query about one record looks it up first: same model, identifier and filter. -/
  byId : q.operation.isById = true →
    (q.id = none → calls = [] ∧ ∃ reason, outcome = .error (.invalidInput reason)) ∧
    ∀ id, q.id = some id → ∃ found rest,
      calls = (⟨q.model, .findUnique, some id, q.filter, none, none⟩, found) :: rest ∧
      Continues rules q found rest outcome
  bulk : q.operation ≠ .create → q.operation.isById = false →
    ∃ asked, calls = [(asked, outcome)] ∧ Forwarded rules q asked

/-- The narrowed query is the query passed on. -/
theorem forwarded_narrowed : Forwarded rules q (narrowed rules q) where
  same := rfl
  admits x := by
    have hscope := RuleSet.filterFor_admits_iff_resolve q.operation.action q.model rules x
    simp only [narrowed, Filter.admits_and, Bool.and_eq_true, hscope]

variable {σ : Type} (backend : Query → σ → Result Output × σ)

/-- A write that may go out is one call. -/
theorem calls_write (existing : Record) (id : Int64) (s : σ) :
    ((write rules q existing id).calls backend s) =
      [(narrowed rules q, (backend (narrowed rules q) s).1)] := by
  unfold write Dialogue.calls
  dsimp only
  split <;> rfl

/-- The outcome of a write is its answer, unless the record is gone. -/
theorem outcome_write (existing : Record) (id : Int64) (s : σ) :
    let answer := (backend (narrowed rules q) s).1
    let outcome := ((write rules q existing id).run backend s).1
    (answer ≠ .ok (.record none) → outcome = answer) ∧
      (answer = .ok (.record none) → ∃ what, outcome = .error (.notFound what)) := by
  unfold write Dialogue.run
  generalize backend (narrowed rules q) s = p
  obtain ⟨answer, s'⟩ := p
  match answer with
  | .ok (.record none) => exact ⟨fun hne => absurd rfl hne, fun _ => ⟨_, rfl⟩⟩
  | .error _ | .ok (.record (some _)) | .ok (.records _) | .ok (.count _) | .ok (.value _) =>
    exact ⟨fun _ => rfl, nofun⟩

/-! ## After a lookup -/

theorem Continues.length_le {found outcome : Result Output} {rest : List (Query × Result Output)}
    (h : Continues rules q found rest outcome) : rest.length ≤ 1 := by
  by_cases hr : rest = []
  · rw [hr]; exact Nat.zero_le 1
  · obtain ⟨hop, r, hfound, hcan⟩ := h.permitted hr
    obtain ⟨asked, answer, hone, -⟩ := h.written r hfound hcan hop
    rw [hone]; exact Nat.le_refl 1

section Found

variable {r : Record}

theorem eq_of_found {r' : Record}
    (h : (Except.ok (.record (some r)) : Result Output) = .ok (.record (some r'))) : r' = r :=
  (Option.some.inj (Output.record.inj (Except.ok.inj h))).symm

theorem not_mistaken {output : Output}
    (h : (Except.ok (.record (some r)) : Result Output) = .ok output)
    (hkind : ∀ r', output ≠ .record r') : False := hkind _ (Except.ok.inj h).symm

/-- A record on which the action is denied. -/
theorem continues_forbidden (hcan : rules.can q.operation.action r = false) :
    Continues rules q (.ok (.record (some r))) [] (.error .forbidden) := by
  refine ⟨nofun, nofun, nofun, fun _ ho h => (not_mistaken ho h).elim, fun _ _ _ => ⟨rfl, rfl⟩,
    fun r' hr' hcan' => ?_, nofun⟩
  rw [eq_of_found hr', hcan] at hcan'
  cases hcan'

variable (hcan : rules.can q.operation.action r = true)

include hcan in
theorem not_denied {r' : Record}
    (h : (Except.ok (.record (some r)) : Result Output) = .ok (.record (some r'))) :
    rules.can q.operation.action r' ≠ false := by
  rw [eq_of_found h, hcan]; decide

include hcan in
/-- A record that is only looked up. -/
theorem continues_returned (hop : q.operation = .findUnique) :
    Continues rules q (.ok (.record (some r))) [] (.ok (.record (some r))) := by
  refine ⟨nofun, nofun, nofun, fun _ ho h => (not_mistaken ho h).elim,
    fun _ hr h => absurd h (not_denied rules q hcan hr), fun _ _ _ hne => absurd hop hne,
    fun _ output ho => ?_⟩
  rw [hop] at hcan
  exact ⟨r, (Except.ok.inj ho).symm, ho, hcan⟩

include hcan in
/-- A record that is written. -/
theorem continues_written (hop : q.operation ≠ .findUnique) (id : Int64) (s : σ) :
    Continues rules q (.ok (.record (some r))) ((write rules q r id).calls backend s)
      ((write rules q r id).run backend s).1 := by
  rw [calls_write]
  refine ⟨fun _ => ⟨hop, r, rfl, hcan⟩, nofun, nofun, fun _ ho h => (not_mistaken ho h).elim,
    fun _ hr h => absurd h (not_denied rules q hcan hr), fun _ _ _ _ => ?_, fun h => absurd h hop⟩
  exact ⟨_, _, rfl, forwarded_narrowed rules q, outcome_write rules q backend r id s⟩

end Found

/-- **Whatever a lookup is answered**, what follows is determined by the rules. -/
theorem afterLookup_continues (id : Int64) (found : Result Output) (s : σ) :
    Continues rules q found
      ((afterLookup rules q id (found.bind Output.toRecord)).calls backend s)
      ((afterLookup rules q id (found.bind Output.toRecord)).run backend s).1 := by
  match found with
  | .error e => exact ⟨nofun, fun _ he => ⟨rfl, he⟩, nofun, nofun, nofun, nofun, nofun⟩
  | .ok (.record none) =>
    refine ⟨nofun, nofun, fun _ => ⟨rfl, _, rfl⟩, fun output ho hkind => ?_, nofun, nofun, nofun⟩
    exact absurd (Except.ok.inj ho).symm (hkind none)
  | .ok (.records _) | .ok (.count _) | .ok (.value _) =>
    exact ⟨nofun, nofun, nofun, fun _ _ _ => ⟨rfl, _, rfl⟩, nofun, nofun, nofun⟩
  | .ok (.record (some r)) =>
    have hnext : afterLookup rules q id ((Except.ok (.record (some r))).bind Output.toRecord) =
        if !rules.can q.operation.action r then .done (.error .forbidden)
        else if q.operation = .findUnique then .done (.ok (.record (some r)))
        else write rules q r id := rfl
    rw [hnext]
    cases hcan : rules.can q.operation.action r with
    | false => exact continues_forbidden rules q hcan
    | true =>
      rw [if_neg (by decide)]
      by_cases hop : q.operation = .findUnique
      · rw [if_pos hop]
        exact continues_returned rules q hcan hop
      · rw [if_neg hop]
        exact continues_written rules q backend hcan hop id s

/-! ## The three kinds of queries -/

theorem create_overseen (hc : q.operation = .create) (s : σ) :
    Overseen rules q ((create rules q).calls backend s) ((create rules q).run backend s).1 := by
  have hb : q.operation.isById = false := by rw [hc]; rfl
  have hbyId : q.operation.isById ≠ true := Bool.eq_false_iff.1 hb
  unfold create
  cases hd : q.data with
  | none =>
    refine ⟨Nat.zero_le 2, fun _ => ⟨fun _ => ⟨rfl, _, rfl⟩, fun data h => ?_⟩,
      fun h => absurd h hbyId, fun h => absurd hc h⟩
    rw [hd] at h; cases h
  | some data =>
    dsimp only
    cases hcan : rules.can .create (Draft.mk q.model data) with
    | false =>
      refine ⟨Nat.zero_le 2, fun _ => ⟨fun h => ?_, fun data' h => ?_⟩, fun h => absurd h hbyId,
        fun h => absurd hc h⟩
      · rw [hd] at h; cases h
      · rw [hd, Option.some.injEq] at h
        subst h
        rw [hcan]
        exact ⟨fun _ => ⟨rfl, rfl⟩, nofun⟩
    | true =>
      refine ⟨Nat.le_succ 1, fun _ => ⟨fun h => ?_, fun data' h => ?_⟩, fun h => absurd h hbyId,
        fun h => absurd hc h⟩
      · rw [hd] at h; cases h
      · rw [hd, Option.some.injEq] at h
        subst h
        rw [hcan]
        exact ⟨nofun, fun _ => rfl⟩

theorem byId_overseen (hb : q.operation.isById = true) (s : σ) :
    Overseen rules q ((byId rules q).calls backend s) ((byId rules q).run backend s).1 := by
  have hc : q.operation ≠ .create := by intro h; rw [h] at hb; cases hb
  have hbulk : q.operation.isById ≠ false := by rw [hb]; decide
  unfold byId
  cases hid : q.id with
  | none =>
    refine ⟨Nat.zero_le 2, fun h => absurd h hc, fun _ => ⟨fun _ => ⟨rfl, _, rfl⟩, fun id h => ?_⟩,
      fun _ h => absurd h hbulk⟩
    rw [hid] at h; cases h
  | some id =>
    have hnext := afterLookup_continues rules q backend id (backend (lookup q id) s).1
      (backend (lookup q id) s).2
    refine ⟨Nat.succ_le_succ hnext.length_le, fun h => absurd h hc,
      fun _ => ⟨fun h => ?_, fun id' h => ?_⟩, fun _ h => absurd h hbulk⟩
    · rw [hid] at h; cases h
    · rw [hid, Option.some.injEq] at h
      subst h
      exact ⟨_, _, rfl, hnext⟩

theorem bulk_overseen (hc : q.operation ≠ .create) (hb : q.operation.isById = false) (s : σ) :
    Overseen rules q ((bulk rules q).calls backend s) ((bulk rules q).run backend s).1 := by
  have hbyId : q.operation.isById ≠ true := Bool.eq_false_iff.1 hb
  exact ⟨Nat.le_succ 1, fun h => absurd h hc, fun h => absurd h hbyId,
    fun _ _ => ⟨narrowed rules q, rfl, forwarded_narrowed rules q⟩⟩

end Guard

/-- **Any query with any backend is overseen by the rules.** The state is the backend's own, so that
an answer may depend on whatever it was asked before, or on nothing that makes sense. -/
theorem guarded_overseen {σ : Type} (backend : Query → σ → Result Output × σ) (rules : RuleSet)
    (q : Query) (s : σ) : Guard.Overseen rules q ((guarded rules q).calls backend s)
      ((guarded rules q).run backend s).1 := by
  unfold guarded
  by_cases hc : q.operation = .create
  · rw [if_pos hc]
    exact Guard.create_overseen rules q backend hc s
  · rw [if_neg hc]
    by_cases hb : q.operation.isById = true
    · rw [if_pos hb]
      exact Guard.byId_overseen rules q backend hb s
    · rw [if_neg hb]
      exact Guard.bulk_overseen rules q backend hc (Bool.eq_false_iff.2 hb) s

namespace Guard

/-- A backend that gives prepared answers. -/
def prepared (_ : Query) : List (Result Output) → Result Output × List (Result Output)
  | [] => (.error (.internal "nothing prepared"), [])
  | answer :: rest => (answer, rest)

/-- User 1 deletes the user's own post, which is gone between the lookup and the deletion. -/
theorem deletion_of_a_lost_post :
    let post := Record.new .post 1 [(authorField, .int 1)]
    let answers : List (Result Output) := [.ok (.record (some post)), .ok (.record none)]
    let deletion := guarded (.owner 1) (.delete .post 1)
    ∃ asked, deletion.calls prepared answers =
        [(.findUnique .post 1, .ok (.record (some post))), (asked, .ok (.record none))] ∧
      Forwarded (.owner 1) (.delete .post 1) asked ∧
      ∃ what, (deletion.run prepared answers).1 = .error (.notFound what) := by
  intro post answers deletion
  obtain ⟨found, rest, hcalls, hnext⟩ :=
    ((guarded_overseen prepared (.owner 1) (.delete .post 1) answers).byId rfl).2 1 rfl
  have hfound : found = .ok (.record (some post)) :=
    (congrArg Prod.snd (List.head_eq_of_cons_eq hcalls)).symm
  obtain ⟨asked, answer, hrest, hforwarded, -, hgone⟩ := hnext.written post hfound rfl (by decide)
  rw [hrest] at hcalls
  have hanswer : answer = .ok (.record none) :=
    (congrArg Prod.snd (List.head_eq_of_cons_eq (List.tail_eq_of_cons_eq hcalls))).symm
  refine ⟨asked, ?_, hforwarded, hgone hanswer⟩
  rw [← hanswer, ← hfound]
  exact hcalls

end Guard

end RowGuard
