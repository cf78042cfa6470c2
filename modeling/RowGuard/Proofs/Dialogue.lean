import RowGuard.Proofs.Guard.Narrowed

/-!
# Laws of dialogues

A dialogue that is followed by another runs as the first and then the second. Changing the outcome
of a dialogue changes nothing that it asks, neither straight to a backend nor by way of another
dialogue (`run_map`, `through_map`).

* `run_query_inContext`: one question in a context
-/

set_option autoImplicit false

namespace RowGuard

namespace Dialogue

variable {α β γ σ : Type}

theorem bind_assoc (d : Dialogue α) (f : α → Dialogue β) (g : β → Dialogue γ) :
    (d.bind f).bind g = d.bind fun a => (f a).bind g := by
  induction d with
  | done a => rfl
  | ask q next ih => exact congrArg (ask q) (funext ih)

theorem map_map (f : α → β) (g : β → γ) (d : Dialogue α) :
    (d.map f).map g = d.map fun a => g (f a) := bind_assoc d _ _

/-- **One dialogue and then another** with the same backend. -/
theorem run_bind (backend : Query → σ → Result Output × σ) (d : Dialogue α) (f : α → Dialogue β)
    (s : σ) : (d.bind f).run backend s =
      (f (d.run backend s).1).run backend (d.run backend s).2 := by
  induction d generalizing s with
  | done a => rfl
  | ask q next ih => exact ih (backend q s).1 (backend q s).2

/-- A changed outcome leaves the backend as it would be. -/
theorem run_map (backend : Query → σ → Result Output × σ) (f : α → β) (d : Dialogue α) (s : σ) :
    (d.map f).run backend s = (f (d.run backend s).1, (d.run backend s).2) :=
  run_bind backend d (fun a => done (f a)) s

/-- A changed outcome leaves the questions as they would be put. -/
theorem through_map (via : Query → Dialogue (Result Output)) (f : α → β) (d : Dialogue α) :
    (d.map f).through via = (d.through via).map f := by
  induction d with
  | done a => rfl
  | ask q next ih =>
    calc (via q).bind (fun answer => ((next answer).map f).through via)
        = (via q).bind fun answer => ((next answer).through via).map f :=
          congrArg (via q).bind (funext ih)
      _ = ((via q).bind fun answer => (next answer).through via).map f :=
          (bind_assoc (via q) _ _).symm

theorem inContext_map (context : Option RequestContext) (f : α → β) (d : Dialogue α) :
    (d.map f).inContext context = (d.inContext context).map f := through_map _ f d

/-- **One question by way of another dialogue** is that dialogue. -/
theorem run_query_through (backend : Query → σ → Result Output × σ)
    (via : Query → Dialogue (Result Output)) (q : Query) (s : σ) :
    ((query q).through via).run backend s = (via q).run backend s :=
  run_bind backend (via q) done s

/-- **One question in a context** is the guarded query. -/
theorem run_query_inContext (context : Option RequestContext) (now : Timestamp) (q : Query)
    (s : Store) :
    ((query q).inContext context).run (Store.execute now) s = s.executeIn context now q :=
  run_query_through (Store.execute now) (guarded (effectiveRules context)) q s

end Dialogue

end RowGuard
