import RowGuard.Proofs.Clients.Basic
import RowGuard.Proofs.Guard.Questions

/-!
# No hole between check and write

The check on a record and the write to it are two steps, between which other clients may delete the
record, edit it or give it another owner. The write is safe all the same, because it carries the
filter of the rules with it: whatever the order of turns, a guarded client changes a row only if the
rules allow it in the very state that the change starts from.

* `Client.turn_cases`: everything a turn can do
* `World.Inv`: what every turn preserves, and `World.Inv.run`
* `guarded_turns_lawful`: changes of rows are lawful, and queries that fail changed nothing
-/

set_option autoImplicit false

namespace RowGuard

namespace Errand

/-- **An errand in order**: what it may still ask is fit, and so far it has changed nothing unless
it is over with success. -/
structure Sound (access : Access) (e : Errand) : Prop where
  asks : ∀ context, access = .inContext context →
    e.left.Asks (Guard.Fit (effectiveRules context) e.query)
  clean : e.left.FailsClean
  harmless : (∀ call ∈ e.calls, call.after = call.before) ∨ ∃ output, e.left = .done (.ok output)

theorem sound_start (access : Access) (q : Query) : (start access q).Sound access := by
  refine ⟨?_, ?_, .inl fun call hcall => (List.not_mem_nil hcall).elim⟩
  · rintro context rfl
    exact guarded_asks _ q
  · cases access with
    | raw => exact Dialogue.query_failsClean q
    | inContext context => exact guarded_failsClean _ q

/-- **A question keeps an errand in order**: either the store is as it was, or the errand is over
with success. -/
theorem Sound.answered {access : Access} {e : Errand} (h : e.Sound access) {q : Query}
    {next : Result Output → Dialogue (Result Output)} (hleft : e.left = .ask q next)
    (now : Timestamp) (s : Store) :
    (Errand.mk e.query (e.calls ++ [⟨q, (s.execute now q).1, s, (s.execute now q).2⟩])
      (next (s.execute now q).1)).Sound access := by
  have hclean := h.clean
  rw [hleft] at hclean
  obtain ⟨hnext, hend⟩ := hclean (s.execute now q).1
  refine ⟨fun context ha => ?_, hnext, ?_⟩
  · have hasks := h.asks context ha
    rw [hleft] at hasks
    exact hasks.2 _
  · rcases hend with hidle | hover
    · refine .inl fun call hcall => ?_
      rcases List.mem_append.1 hcall with hold | hnew
      · rcases h.harmless with hkeep | ⟨output, hover⟩
        · exact hkeep call hold
        · rw [hleft] at hover; cases hover
      · rw [List.mem_singleton.1 hnew]
        rcases hidle with hr | ⟨e, he⟩ | hn
        · exact Store.execute_read now q s hr
        · exact Store.execute_error he
        · exact Store.execute_nothing hn
    · exact .inr hover

end Errand

namespace Client

/-- **Everything a turn can do**: nothing, begin a query, note an outcome, or put a question. -/
theorem turn_cases (now : Timestamp) (c : Client) (s : Store) :
    c.turn now s = (c, s) ∨
    (∃ q rest, c.current = none ∧ c.turn now s =
      ({ c with current := some (.start c.access q), upcoming := rest }, s)) ∨
    (∃ e, c.current = some e ∧
      c.turn now s = ({ c with current := none, finished := c.finished ++ [e] }, s)) ∨
    ∃ e q next, c.current = some e ∧ e.left = .ask q next ∧
      c.turn now s = ({ c with current := some ⟨e.query,
        e.calls ++ [⟨q, (s.execute now q).1, s, (s.execute now q).2⟩],
        next (s.execute now q).1⟩ }, (s.execute now q).2) := by
  obtain ⟨access, upcoming, current, finished⟩ := c
  cases current with
  | none =>
    cases upcoming with
    | nil => exact .inl rfl
    | cons q rest => exact .inr (.inl ⟨q, rest, rfl, rfl⟩)
  | some e =>
    obtain ⟨query, calls, left⟩ := e
    cases left with
    | done outcome => exact .inr (.inr (.inl ⟨_, rfl, rfl⟩))
    | ask q next => exact .inr (.inr (.inr ⟨_, q, next, rfl, rfl, rfl⟩))

/-- A client whose errands are in order. -/
def Sound (c : Client) : Prop := ∀ e ∈ c.errands, e.Sound c.access

theorem sound_start (access : Access) (queries : List Query) : (start access queries).Sound :=
  fun _ he => (List.not_mem_nil he).elim

theorem Sound.turn {c : Client} (h : c.Sound) (now : Timestamp) (s : Store) :
    (c.turn now s).1.Sound := by
  have hfinished : ∀ e ∈ c.finished, e.Sound c.access :=
    fun e he => h e (List.mem_append_left _ he)
  have hcurrent : ∀ e, c.current = some e → e.Sound c.access := by
    intro e he
    exact h e (List.mem_append_right _ (by rw [he]; exact List.mem_singleton_self e))
  rcases c.turn_cases now s with ht | ⟨q, rest, -, ht⟩ | ⟨e, hc, ht⟩ | ⟨e, q, next, hc, hleft, ht⟩
  all_goals
    rw [ht]
    intro e' he'
    rcases List.mem_append.1 he' with hf | hu
  -- nothing happened
  · exact hfinished e' hf
  · exact h e' (List.mem_append_right _ hu)
  -- a query was begun
  · exact hfinished e' hf
  · rw [List.mem_singleton.1 hu]; exact Errand.sound_start c.access q
  -- an outcome was noted
  · rcases List.mem_append.1 hf with hf | hf
    · exact hfinished e' hf
    · rw [List.mem_singleton.1 hf]; exact hcurrent e hc
  · exact (List.not_mem_nil hu).elim
  -- a question was put
  · exact hfinished e' hf
  · rw [List.mem_singleton.1 hu]; exact (hcurrent e hc).answered hleft now s

/-- A turn leaves the store as it is or puts one question to it. -/
theorem turn_store (now : Timestamp) (c : Client) (s : Store) :
    (c.turn now s).2 = s ∨ ∃ q, (c.turn now s).2 = (s.execute now q).2 := by
  rcases c.turn_cases now s with ht | ⟨q, rest, -, ht⟩ | ⟨e, -, ht⟩ | ⟨e, q, next, -, -, ht⟩
  · exact .inl (by rw [ht])
  · exact .inl (by rw [ht])
  · exact .inl (by rw [ht])
  · exact .inr ⟨q, by rw [ht]⟩

end Client

namespace World

/-- **What holds after a number of turns**: the store is in order and made at most a row a turn, and
the errands of every client are in order. -/
structure Inv (turns : Nat) (w : World) : Prop where
  store : w.store.Sound
  counted : ∃ made, w.store.Counted made ∧ ∀ model, made model ≤ turns
  clients : ∀ c ∈ w.clients, c.Sound

theorem inv_start (clients : List (Access × List Query)) : (start clients).Inv 0 := by
  refine ⟨Store.sound_empty, ⟨_, Store.Counted.empty, fun _ => Nat.le_refl 0⟩, fun c hc => ?_⟩
  obtain ⟨a, -, rfl⟩ := List.mem_map.1 hc
  exact Client.sound_start a.1 a.2

/-- A turn is that of a client that exists, or nothing happens. -/
theorem turn_cases (w : World) (t : Nat × Timestamp) :
    w.turn t = w ∨ ∃ c, w.clients[t.1]? = some c ∧
      w.turn t = ⟨(c.turn t.2 w.store).2, w.clients.set t.1 (c.turn t.2 w.store).1⟩ := by
  unfold turn
  cases hc : w.clients[t.1]? with
  | none => exact .inl rfl
  | some c => exact .inr ⟨c, rfl, rfl⟩

theorem Inv.turn {turns : Nat} {w : World} (h : w.Inv turns) (t : Nat × Timestamp) :
    (w.turn t).Inv (turns + 1) := by
  obtain ⟨made, hmade, hle⟩ := h.counted
  have hkeep : ∃ made, w.store.Counted made ∧ ∀ model, made model ≤ turns + 1 :=
    ⟨made, hmade, fun model => Nat.le_succ_of_le (hle model)⟩
  rcases w.turn_cases t with ht | ⟨c, hc, ht⟩
  · rw [ht]; exact ⟨h.store, hkeep, h.clients⟩
  · rw [ht]
    refine ⟨?_, ?_, fun c' hc' => ?_⟩
    -- the store is in order
    · rcases c.turn_store t.2 w.store with hs | ⟨q, hs⟩
      · rw [hs]; exact h.store
      · rw [hs]; exact h.store.execute t.2 q
    -- a question makes at most one row
    · rcases c.turn_store t.2 w.store with hs | ⟨q, hs⟩
      · rw [hs]; exact hkeep
      · rw [hs]
        refine ⟨_, hmade.execute h.store t.2 q, fun model => ?_⟩
        have := hle model
        have := q.makes_le
        split <;> omega
    -- the errands of the client whose turn it was, and those of the others
    · rcases List.mem_or_eq_of_mem_set hc' with hold | rfl
      · exact h.clients c' hold
      · exact (h.clients c (List.mem_of_getElem? hc)).turn t.2 w.store

/-- **Every run** keeps stores and errands in order. -/
theorem Inv.run {w : World} (schedule : List (Nat × Timestamp)) : ∀ {turns : Nat}, w.Inv turns →
    (w.run schedule).Inv (turns + schedule.length) := by
  induction schedule generalizing w with
  | nil => exact fun h => h
  | cons t rest ih =>
    intro turns h
    have hrest := ih (h.turn t)
    rw [List.length_cons, ← Nat.add_assoc, Nat.add_right_comm]
    exact hrest

/-- **No hole between check and write.** Take any clients, any queries of theirs and any order of
turns. If a turn changes a row, it is the turn of a client that put one question of the query it has
under way, and if the client is guarded the change is lawful in the state right before the turn: the
row is of the query's model, the client's rules allow the action on it and the query's filter admits
it, or it was made of a draft that the rules allow. And a query that ended in an error, also when
its record was edited or lost after the check, has changed nothing with any of its questions.

A raw client stands for whatever else uses the store. -/
theorem guarded_turns_lawful (clients : List (Access × List Query))
    (schedule : List (Nat × Timestamp)) (i : Nat) (now : Timestamp) :
    let w := (start clients).run schedule
    let w' := w.turn (i, now)
    (∀ model id, w'.store.row model id ≠ w.store.row model id →
      ∃ c e call left, w.clients[i]? = some c ∧ c.current = some e ∧
        w'.clients = w.clients.set i { c with current := some ⟨e.query, e.calls ++ [call], left⟩ } ∧
        call.before = w.store ∧ call.after = w'.store ∧
        ∀ context, c.access = .inContext context → model = e.query.model ∧
          Lawful (effectiveRules context) e.query now schedule.length id
            (w.store.row model id) (w'.store.row model id)) ∧
    ∀ c ∈ w'.clients, ∀ e ∈ c.errands, ∀ error, e.left = .done (.error error) →
      ∀ call ∈ e.calls, call.after = call.before := by
  intro w w'
  have hw : w.Inv schedule.length := by
    have hrun := (inv_start clients).run schedule
    rwa [Nat.zero_add] at hrun
  refine ⟨fun model id hne => ?_, fun c hc e he error herror => ?_⟩
  · rcases w.turn_cases (i, now) with ht | ⟨c, hc, ht⟩
    · exact absurd (congrArg (fun v : World => v.store.row model id) ht) hne
    have hstore : w'.store = (c.turn now w.store).2 := congrArg store ht
    rw [hstore] at hne
    -- only a turn that puts a question changes a row
    rcases c.turn_cases now w.store with hn | ⟨q, rest, -, hn⟩ | ⟨e, -, hn⟩ | ⟨e, q, next, he, hl, hn⟩
    · exact absurd (by rw [hn]) hne
    · exact absurd (by rw [hn]) hne
    · exact absurd (by rw [hn]) hne
    have hafter : w'.store = (w.store.execute now q).2 := by rw [hstore, hn]
    refine ⟨c, e, ⟨q, (w.store.execute now q).1, w.store, (w.store.execute now q).2⟩,
      next (w.store.execute now q).1, hc, he, ?_, rfl, hafter.symm, fun context ha => ?_⟩
    · exact (congrArg World.clients ht).trans (by rw [hn])
    -- the question was fit in any state, so it is lawful in the one it met
    · have hsound : e.Sound c.access := hw.clients c (List.mem_of_getElem? hc) e
        (List.mem_append_right _ (by rw [he]; exact List.mem_singleton_self e))
      have hasks := hsound.asks context ha
      rw [hl] at hasks
      obtain ⟨made, hmade, hle⟩ := hw.counted
      rw [hn] at hne
      rw [hafter]
      exact hasks.1.lawful now hw.store hmade hle hne
  · rcases ((hw.turn (i, now)).clients c hc e he).harmless with hkeep | ⟨output, hover⟩
    · exact hkeep
    · rw [herror] at hover; cases hover

/-- A post of user 1, who deletes it, and someone who gives it to user 2. -/
def handover : List (Access × List Query) :=
  [(.raw, [.create .post [(authorField, .int 1)], .update .post 1 [(authorField, .int 2)]]),
   (.inContext (some (.forCaller (some (.user 1)))), [.delete .post 1])]

/-- The post is there, and the deletion is past its check. -/
def checked : World := (start handover).run ([0, 0, 0, 1, 1].map (·, Store.dayOne))

/-- **A deletion past its check** removes the post, lawfully. Where the post goes to user 2 first,
the deletion fails and has changed nothing. -/
theorem deletion_without_and_with_handover :
    let rules := effectiveRules (some (.forCaller (some (.user 1))))
    (∃ r, checked.store.row .post 1 = some r ∧
      (checked.turn (1, Store.dayOne)).store.row .post 1 = none ∧
      Lawful rules (.delete .post 1) Store.dayOne 5 1 (some r) none) ∧
    ∃ c ∈ ((checked.run ([0, 0].map (·, Store.dayOne))).turn (1, Store.dayOne)).clients,
      ∃ e ∈ c.errands, (∃ error, e.left = .done (.error error)) ∧ e.query = .delete .post 1 ∧
        ∀ call ∈ e.calls, call.after = call.before := by
  intro rules
  constructor
  · obtain ⟨r, hbefore⟩ : ∃ r, checked.store.row .post 1 = some r := ⟨_, rfl⟩
    have hafter : (checked.turn (1, Store.dayOne)).store.row .post 1 = none := rfl
    have hne : (checked.turn (1, Store.dayOne)).store.row .post 1 ≠ checked.store.row .post 1 := by
      rw [hbefore, hafter]; exact nofun
    obtain ⟨c, e, call, left, hc, he, -, -, -, hlawful⟩ :=
      (guarded_turns_lawful handover ([0, 0, 0, 1, 1].map (·, Store.dayOne)) 1 Store.dayOne).1
        .post 1 hne
    cases hc
    cases he
    have h : Lawful rules (.delete .post 1) Store.dayOne 5 1 (checked.store.row .post 1)
        ((checked.turn (1, Store.dayOne)).store.row .post 1) := (hlawful _ rfl).2
    rw [hbefore, hafter] at h
    exact ⟨r, hbefore, hafter, h⟩
  · obtain ⟨c, e, error, hc, he, hleft, hquery⟩ : ∃ c e error,
        ((checked.run ([0, 0].map (·, Store.dayOne))).turn (1, Store.dayOne)).clients[1]? = some c ∧
        c.current = some e ∧ e.left = .done (.error error) ∧ e.query = .delete .post 1 :=
      ⟨_, _, _, rfl, rfl, rfl, rfl⟩
    have hmem := List.mem_of_getElem? hc
    have herrand : e ∈ c.errands :=
      List.mem_append_right _ (by rw [he]; exact List.mem_singleton_self e)
    refine ⟨c, hmem, e, herrand, ⟨error, hleft⟩, hquery, ?_⟩
    exact (guarded_turns_lawful handover ([0, 0, 0, 1, 1, 0, 0].map (·, Store.dayOne)) 1
      Store.dayOne).2 c hmem e herrand error hleft

end World

end RowGuard
