import RowGuard.Proofs.Guard.Narrowed

/-!
# Queries about whatever is permitted

Six operations are about all rows that a filter selects. Through the guard they are about the
permitted rows among these: a read answers with them, a write rewrites or removes them, and no row
that is not permitted has any part in it.

* `bulk_about_permitted_rows`: the six operations on a reachable store
-/

set_option autoImplicit false

namespace RowGuard

namespace Store

variable {s : Store} {q : Query} (context : Option RequestContext) (now : Timestamp)

/-- A bulk write through the guard is about the permitted rows. -/
theorem replaced_bulk (h : s.Sound) (hc : q.operation ≠ .create)
    (hb : q.operation.isById = false) :
    s.Replaced q.model (s.permitted (effectiveRules context) q) (q.leaves now)
      (s.executeIn context now q).2 := by
  rw [executeIn_bulk context now hc hb]
  refine replaced_execute h now hc (q := Guard.narrowed (effectiveRules context) q) fun r => ?_
  rw [mem_permitted h]
  refine and_congr_right fun hrow => ?_
  have hpick : (Guard.narrowed (effectiveRules context) q).picks r.id r =
      (Guard.narrowed (effectiveRules context) q).filter.admits r := by
    simp only [Query.picks, Guard.narrowed, hb, Bool.not_false, Bool.true_or, Bool.and_true]
  rw [hpick, Guard.admits_narrowed ((h q.model).filed hrow).2, Bool.and_eq_true]

/-- A bulk operation through the guard is answered by the permitted rows. -/
theorem answer_bulk (h : s.Sound) (hc : q.operation ≠ .create)
    (hb : q.operation.isById = false) :
    (s.executeIn context now q).1 = q.about (s.permitted (effectiveRules context) q) := by
  rw [executeIn_bulk context now hc hb]
  have ha := answer_execute now (Guard.narrowed (effectiveRules context) q) s hc hb
  -- narrowing changes nothing but the filter
  exact ha.trans (congrArg q.about (Guard.matching_narrowed h))

theorem bulk_read (hc : q.operation ≠ .create) (hb : q.operation.isById = false)
    (hr : q.operation.action = .read) : (s.executeIn context now q).2 = s := by
  rw [executeIn_bulk context now hc hb]
  exact execute_read now _ s hr

/-- **Operations about many rows are about the permitted ones.** -/
theorem bulk_about_permitted_rows (hs : s.Reachable) :
    let rules := effectiveRules context
    let permitted := s.permitted rules q
    let answer := (s.executeIn context now q).1
    let s' := (s.executeIn context now q).2
    (permitted.map Record.id).Pairwise (· < ·) ∧
    (∀ r, r ∈ permitted ↔ s.row q.model r.id = some r ∧ q.filter.admits r = true ∧
      rules.can q.operation.action r = true) ∧
    (q.operation = .findMany → answer = .ok (.records permitted) ∧ s' = s) ∧
    (q.operation = .findFirst → answer = .ok (.record permitted.head?) ∧ s' = s) ∧
    (q.operation = .count → answer = .ok (.count permitted.length) ∧ s' = s) ∧
    (q.operation = .aggregate →
      (∀ a, q.aggregation = some a → answer = .ok (.value (a.over permitted))) ∧
      (q.aggregation = none → ∃ reason, answer = .error (.invalidInput reason)) ∧ s' = s) ∧
    (q.operation = .updateMany → answer = .ok (.count permitted.length) ∧
      s.Replaced q.model permitted
        (fun r => some (r.apply (prepareUpdate now (q.data.getD [])))) s') ∧
    (q.operation = .deleteMany → answer = .ok (.count permitted.length) ∧
      s.Replaced q.model permitted (fun _ => none) s') := by
  intro rules permitted answer s'
  have hsound := hs.sound
  refine ⟨permitted_ascending hsound, fun r => mem_permitted hsound, ?_, ?_, ?_, ?_, ?_, ?_⟩
  -- the six operations differ in what they answer about the same rows
  all_goals
    intro hop
    have hc : q.operation ≠ .create := by rw [hop]; decide
    have hb : q.operation.isById = false := by rw [hop]; rfl
    have ha : answer = q.about permitted := answer_bulk context now hsound hc hb
    have hw := replaced_bulk context now hsound hc hb
    have hr : q.operation.action = .read → s' = s := bulk_read context now hc hb
    simp only [Query.about, hop] at ha
  · exact ⟨ha, hr (by rw [hop]; rfl)⟩
  · exact ⟨ha, hr (by rw [hop]; rfl)⟩
  · exact ⟨ha, hr (by rw [hop]; rfl)⟩
  · refine ⟨fun a hagg => ?_, fun hagg => ?_, hr (by rw [hop]; rfl)⟩
    · rw [ha, hagg]
    · rw [ha, hagg]; exact ⟨_, rfl⟩
  · exact ⟨ha, hw.congr fun r _ => by simp only [Query.leaves, hop, Query.changes]⟩
  · exact ⟨ha, hw.congr fun r _ => by simp only [Query.leaves, hop]⟩

/-- User 1 deletes every post and thereby the one that is the user's own. -/
theorem bulk_delete_of_own_posts :
    let context := some (.forCaller (some (.user 1)))
    let deletion := Query.deleteMany .post .pass
    let s' := (twoPosts.executeIn context dayOne deletion).2
    twoPosts.Reachable ∧
    (twoPosts.executeIn context dayOne deletion).1 = .ok (.count 1) ∧
    s'.row .post 1 = none ∧ s'.row .post 2 = twoPosts.row .post 2 := by
  intro context deletion s'
  obtain ⟨-, -, -, -, -, -, -, hdelete⟩ :=
    bulk_about_permitted_rows (q := deletion) context dayOne twoPosts_reachable
  obtain ⟨hanswer, hrows⟩ := hdelete rfl
  obtain ⟨first, hfirst⟩ : ∃ r, twoPosts.permitted (effectiveRules context) deletion = [r] ∧ r.id = 1 :=
    ⟨_, rfl, rfl⟩
  rw [hfirst.1] at hanswer hrows
  refine ⟨twoPosts_reachable, hanswer, ?_, ?_⟩
  · rw [← hfirst.2]
    exact hrows.listed first (List.mem_singleton_self first)
  · refine hrows.others 2 fun r hr => ?_
    rw [List.mem_singleton.1 hr, hfirst.2]; decide

end Store

end RowGuard
