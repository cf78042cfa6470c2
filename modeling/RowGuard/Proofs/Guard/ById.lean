import RowGuard.Proofs.Guard.Narrowed
import RowGuard.Proofs.Store.Edit

/-!
# Queries about one record

Through the guard a query about one record looks the record up, asks whether its action is allowed
on it, and only then writes. When nothing comes between, each answer has one cause: a query without
an identifier is invalid, a record that the lookup does not find is missing, one on which the action
is denied is forbidden, and in every other case the query succeeds.

* `executeIn_byId`: what is left to decide once the lookup was answered
* `replaced_narrowed`: a write whose check passed finds its row and touches no other
* `byId_outcome`: all cases, with the store after each
-/

set_option autoImplicit false

namespace RowGuard

theorem Operation.ne_create_of_isById {op : Operation} (h : op.isById = true) : op ≠ .create := by
  rintro rfl; cases h

namespace Store

variable {s : Store} {q : Query} {id : Int64} (context : Option RequestContext) (now : Timestamp)

/-- **After the lookup** the answer depends on the row that was found. -/
theorem executeIn_byId (hb : q.operation.isById = true) (hid : q.id = some id) :
    s.executeIn context now q =
      (Guard.afterLookup (effectiveRules context) q id
        (.ok ((s.row q.model id).filter q.filter.admits))).run (Store.execute now) s := by
  unfold executeIn guarded Guard.byId
  rw [if_neg (Operation.ne_create_of_isById hb), if_pos hb, hid]
  rfl

theorem executeIn_without_id (hb : q.operation.isById = true) (hid : q.id = none) :
    s.executeIn context now q = (.error (.invalidInput
      (q.operation.inspect ++ " on " ++ q.model.name ++ " requires an id")), s) := by
  unfold executeIn guarded Guard.byId
  rw [if_neg (Operation.ne_create_of_isById hb), if_pos hb, hid]
  rfl

theorem executeIn_missing (hb : q.operation.isById = true) (hid : q.id = some id)
    (hrow : (s.row q.model id).filter q.filter.admits = none) :
    s.executeIn context now q = (.error (Guard.missing q.model id), s) := by
  rw [executeIn_byId context now hb hid, hrow]
  rfl

theorem executeIn_forbidden (hb : q.operation.isById = true) (hid : q.id = some id) {r : Record}
    (hrow : (s.row q.model id).filter q.filter.admits = some r)
    (hcan : (effectiveRules context).can q.operation.action r = false) :
    s.executeIn context now q = (.error .forbidden, s) := by
  rw [executeIn_byId context now hb hid, hrow, Guard.afterLookup, hcan]
  rfl

theorem answer_update (hop : q.operation = .update) (hid : q.id = some id) {r : Record}
    (hfound : (s.row q.model id).filter q.filter.admits = some r) :
    (s.execute now q).1 = .ok (.record (some (r.apply (q.changes now)))) := by
  have hrow : (s.table q.model).byId id q.filter = some r := hfound
  unfold execute
  simp only [hop, hid, Table.update, hrow, Query.changes]

theorem answer_delete (hop : q.operation = .delete) (hid : q.id = some id) {r : Record}
    (hfound : (s.row q.model id).filter q.filter.admits = some r) :
    (s.execute now q).1 = .ok (.record (some r)) := by
  have hrow : (s.table q.model).byId id q.filter = some r := hfound
  unfold execute
  simp only [hop, hid, Table.delete, hrow]

/-! ## The write after a check that passed -/

section Allowed

variable {r : Record} (hs : s.Sound) (hid : q.id = some id)
  (hfound : (s.row q.model id).filter q.filter.admits = some r)
  (hcan : (effectiveRules context).can q.operation.action r = true)

include hs hfound hcan in
/-- **The narrowed write finds the row** that the check passed. -/
theorem narrowed_finds : (s.row q.model id).filter
    (Guard.narrowed (effectiveRules context) q).filter.admits = some r := by
  obtain ⟨hrow, hf⟩ := Option.filter_eq_some_iff.1 hfound
  refine Option.filter_eq_some_iff.2 ⟨hrow, ?_⟩
  rw [Guard.admits_narrowed ((hs q.model).filed hrow).2, hf, hcan]
  rfl

include hs hid hfound hcan in
/-- **The narrowed write is about that row** and no other. -/
theorem replaced_narrowed (hb : q.operation.isById = true) :
    s.Replaced q.model [r] (q.leaves now)
      (s.execute now (Guard.narrowed (effectiveRules context) q)).2 := by
  refine replaced_execute hs now (Operation.ne_create_of_isById hb)
    (q := Guard.narrowed (effectiveRules context) q) fun r' => ?_
  obtain ⟨hrow, hn⟩ := Option.filter_eq_some_iff.1 (narrowed_finds context hs hfound hcan)
  -- the identifier is the query's, so at most one row is picked
  have hpick : ∀ x : Record, (Guard.narrowed (effectiveRules context) q).picks x.id x = true ↔
      (Guard.narrowed (effectiveRules context) q).filter.admits x = true ∧ id = x.id := by
    intro x
    simp only [Query.picks, Guard.narrowed, hb, hid, Bool.not_true, Bool.false_or,
      Bool.and_eq_true, decide_eq_true_eq, Option.some.injEq]
  rw [List.mem_singleton, hpick]
  constructor
  · rintro rfl
    obtain ⟨rfl, -⟩ := (hs q.model).filed hrow
    exact ⟨hrow, hn, rfl⟩
  · rintro ⟨hrow', -, rfl⟩
    exact Option.some.inj (hrow'.symm.trans hrow)

include hid hfound hcan in
theorem executeIn_found (hop : q.operation = .findUnique) :
    s.executeIn context now q = (.ok (.record (some r)), s) := by
  rw [executeIn_byId context now (by rw [hop]; rfl) hid, hfound, Guard.afterLookup, hcan,
    if_neg (by decide), if_pos hop]
  rfl

include hid hfound hcan in
/-- A write that is answered with a record is the last word. -/
theorem executeIn_write (hb : q.operation.isById = true) (hop : q.operation ≠ .findUnique)
    {w : Record} (ha : (s.execute now (Guard.narrowed (effectiveRules context) q)).1 =
      .ok (.record (some w))) :
    s.executeIn context now q = (.ok (.record (some w)),
      (s.execute now (Guard.narrowed (effectiveRules context) q)).2) := by
  rw [executeIn_byId context now hb hid, hfound, Guard.afterLookup, hcan,
    if_neg (by decide), if_neg hop, Guard.write, Dialogue.run]
  -- the lookup left the store as it was, so the write meets the same rows
  dsimp only
  rw [ha]
  rfl

include hs hid hfound hcan in
/-- **An allowed update** answers with the record it stores. -/
theorem executeIn_update (hop : q.operation = .update) :
    (s.executeIn context now q).1 = .ok (.record (some (r.apply (q.changes now)))) ∧
      s.Replaced q.model [r] (fun _ => some (r.apply (q.changes now)))
        (s.executeIn context now q).2 := by
  have hb : q.operation.isById = true := by rw [hop]; rfl
  have ha := answer_update now (q := Guard.narrowed (effectiveRules context) q) hop hid
    (narrowed_finds context hs hfound hcan)
  have he := executeIn_write context now hid hfound hcan hb (by rw [hop]; decide) ha
  rw [he]
  refine ⟨rfl, (replaced_narrowed context now hs hid hfound hcan hb).congr fun r' hr' => ?_⟩
  rw [List.mem_singleton.1 hr']
  simp only [Query.leaves, hop]

include hs hid hfound hcan in
/-- **An allowed deletion** answers with the record it removes. -/
theorem executeIn_delete (hop : q.operation = .delete) :
    (s.executeIn context now q).1 = .ok (.record (some r)) ∧
      s.Replaced q.model [r] (fun _ => none) (s.executeIn context now q).2 := by
  have hb : q.operation.isById = true := by rw [hop]; rfl
  have ha := answer_delete now (q := Guard.narrowed (effectiveRules context) q) hop hid
    (narrowed_finds context hs hfound hcan)
  have he := executeIn_write context now hid hfound hcan hb (by rw [hop]; decide) ha
  rw [he]
  refine ⟨rfl, (replaced_narrowed context now hs hid hfound hcan hb).congr fun r' _ => ?_⟩
  simp only [Query.leaves, hop]

end Allowed

/-- **Queries about one record, end to end.** A lookup that finds nothing is told from a refusal,
and a write whose check passed cannot miss. The supplied fields are a map when their names ascend. -/
theorem byId_outcome (hs : s.Reachable) (hb : q.operation.isById = true) :
    let rules := effectiveRules context
    let answer := (s.executeIn context now q).1
    let s' := (s.executeIn context now q).2
    (q.id = none → answer = .error (.invalidInput
      (q.operation.inspect ++ " on " ++ q.model.name ++ " requires an id")) ∧ s' = s) ∧
    ∀ id, q.id = some id →
      ((∀ r, s.row q.model id = some r → q.filter.admits r = false) →
        answer = .error (.notFound (q.model.name ++ " with id " ++ toString id.toInt)) ∧
          s' = s) ∧
      ∀ r, s.row q.model id = some r → q.filter.admits r = true → r.id = id ∧
        (rules.can q.operation.action r = false → answer = .error .forbidden ∧ s' = s) ∧
        (rules.can q.operation.action r = true →
          (q.operation = .findUnique → answer = .ok (.record (some r)) ∧ s' = s) ∧
          (q.operation = .update → ∃ r', answer = .ok (.record (some r')) ∧
            ((q.data.getD []).Ascending → r.Edited now (q.data.getD []) r') ∧
            s.Replaced q.model [r] (fun _ => some r') s') ∧
          (q.operation = .delete → answer = .ok (.record (some r)) ∧
            s.Replaced q.model [r] (fun _ => none) s')) := by
  intro rules answer s'
  have hsound := hs.sound
  refine ⟨fun hid => ?_, fun id hid => ⟨fun hnone => ?_, fun r hrow hf => ?_⟩⟩
  · have he : s.executeIn context now q = (.error (.invalidInput
        (q.operation.inspect ++ " on " ++ q.model.name ++ " requires an id")), s) :=
      executeIn_without_id context now hb hid
    exact ⟨congrArg Prod.fst he, congrArg Prod.snd he⟩
  -- a row that the filter does not admit is as good as none
  · have hfound : (s.row q.model id).filter q.filter.admits = none := by
      rw [Option.filter_eq_none_iff]
      exact fun r hr => Bool.eq_false_iff.1 (hnone r hr)
    have he := executeIn_missing context now hb hid hfound
    exact ⟨congrArg Prod.fst he, congrArg Prod.snd he⟩
  · have hfound := Option.filter_eq_some_iff.2 ⟨hrow, hf⟩
    refine ⟨((hsound q.model).filed hrow).1, fun hcan => ?_, fun hcan => ⟨?_, ?_, ?_⟩⟩
    · have he := executeIn_forbidden context now hb hid hfound hcan
      exact ⟨congrArg Prod.fst he, congrArg Prod.snd he⟩
    · intro hop
      have he := executeIn_found context now hid hfound hcan hop
      exact ⟨congrArg Prod.fst he, congrArg Prod.snd he⟩
    · intro hop
      obtain ⟨he, hrep⟩ := executeIn_update context now hsound hid hfound hcan hop
      exact ⟨_, he, fun hd => r.edited_apply now hd, hrep⟩
    · intro hop
      exact executeIn_delete context now hsound hid hfound hcan hop

/-- User 1 renames the user's own post. An identifier among the changes is passed over. -/
theorem byId_rename_of_own_post :
    let context := some (.forCaller (some (.user 1)))
    let rename := Query.update .post 1 [("id", .int 7), ("title", .string "new")]
    twoPosts.Reachable ∧ rename.operation.isById = true ∧
    ∃ r', (twoPosts.executeIn context dayOne rename).1 = .ok (.record (some r')) ∧
      r'.id = 1 ∧ r'.data.get? "title" = some (.string "new") ∧
      r'.data.get? "id" = some (.int 1) ∧
      (twoPosts.executeIn context dayOne rename).2.row .post 1 = some r' := by
  intro context rename
  obtain ⟨r, hrow, hfilter, hcan, hfield⟩ : ∃ r, twoPosts.row .post 1 = some r ∧
      rename.filter.admits r = true ∧ (effectiveRules context).can .update r = true ∧
      r.data.get? "id" = some (.int 1) := ⟨_, rfl, rfl, rfl, rfl⟩
  have hascend : (rename.data.getD []).Ascending := by
    refine List.pairwise_pair.2 ?_
    decide
  obtain ⟨-, houtcome⟩ :=
    byId_outcome (q := rename) context dayOne twoPosts_reachable rfl
  obtain ⟨hid, -, hallowed⟩ := (houtcome 1 rfl).2 r hrow hfilter
  obtain ⟨r', hanswer, hedited, hrows⟩ := (hallowed hcan).2.1 rfl
  have he := hedited hascend
  refine ⟨twoPosts_reachable, rfl, r', hanswer, he.id.trans hid, ?_, ?_, ?_⟩
  · exact he.replaced "title" _ (by decide) (by decide) (by decide) rfl
  · rw [he.protect "id" (.inl rfl), hfield]
  · rw [← hid]; exact hrows.listed r (List.mem_singleton_self r)

end Store

end RowGuard
