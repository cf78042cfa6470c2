/-!
# A fair lock

A lock keeps apart the visits to a shared state. Visits that only look at it may be inside together;
one that changes it is inside alone. Who comes is let in at once if there is room and nobody waits,
and otherwise waits behind those who came before: nobody is overtaken.

* `Lock.enter`: a visit that comes
* `Lock.leave`: a visit that ends, and who is let in after it
-/

set_option autoImplicit false

namespace RowGuard

/-- **A visit**, by its number and whoever is called when it is let in. -/
structure Visit (κ : Type) where
  number : Nat
  /-- Nobody else may be inside. -/
  alone : Bool
  caller : κ

/-- **A lock**, with visits numbered in the order in which they came. -/
structure Lock (κ : Type) where
  /-- The number of the next visit. -/
  next : Nat
  inside : List (Visit κ)
  /-- Those who are not let in yet, in order. -/
  waiting : List (Visit κ)

namespace Lock

variable {κ : Type}

/-- A lock that nobody came to. -/
def fresh : Lock κ := ⟨0, [], []⟩

/-- Whether a visit has room beside those inside. -/
def hasRoom (inside : List (Visit κ)) (v : Visit κ) : Bool :=
  inside.isEmpty || (!v.alone && inside.all fun w => !w.alone)

/-- Whether a visit is inside. -/
def isInside (l : Lock κ) (number : Nat) : Bool := l.inside.any fun v => v.number == number

/-- **The lock after a visit came.** It is let in at once if nobody waits and there is room. -/
def enter (l : Lock κ) (alone : Bool) (caller : κ) : Lock κ :=
  let v : Visit κ := ⟨l.next, alone, caller⟩
  if l.waiting.isEmpty && hasRoom l.inside v then
    { l with next := l.next + 1, inside := l.inside ++ [v] }
  else { l with next := l.next + 1, waiting := l.waiting ++ [v] }

/-- Those of the waiting who are let in: up to the first one without room. -/
def admitted (inside : List (Visit κ)) : List (Visit κ) → List (Visit κ)
  | [] => []
  | v :: rest => if hasRoom inside v then v :: admitted (inside ++ [v]) rest else []

/-- **The visits that are let in when one ends**, and the lock after it. -/
def leave (l : Lock κ) (number : Nat) : List (Visit κ) × Lock κ :=
  let inside := l.inside.filter fun v => v.number != number
  let new := admitted inside l.waiting
  (new, { l with inside := inside ++ new, waiting := l.waiting.drop new.length })

end Lock

end RowGuard
