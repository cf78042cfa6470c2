import RowGuard.Pattern.Piece

/-!
# Sets of characters

A set stands in brackets. It is a union of characters, ranges, named classes and further sets, or
what an operator makes of such unions from left to right. A hyphen right after the opening bracket
is a character, and so is a closing bracket there.

* `readSet`: reads a set and measures its depth
-/

set_option autoImplicit false

namespace RowGuard.Pattern

/-- **A set that is still open.** -/
structure OpenSet where
  /-- Nothing has been read but hyphens. -/
  isFresh : Bool
  /-- The depth of what stands before the last operator. -/
  left : Option Nat
  /-- The depths of the elements after it. -/
  elements : List Nat

namespace OpenSet

/-- A set right after its opening bracket. -/
def opened : OpenSet := ⟨true, none, []⟩

/-- The set with one more element. -/
def add (s : OpenSet) (depth : Nat) : OpenSet := ⟨false, s.left, depth :: s.elements⟩

/-- The set with a hyphen right after its opening bracket. -/
def addHyphen (s : OpenSet) : OpenSet := ⟨true, s.left, 0 :: s.elements⟩

/-- The depth of what is inside. -/
def depth (s : OpenSet) : Nat :=
  match s.left with
  | some d => max d (depthOf s.elements) + 1
  | none => depthOf s.elements

/-- The set after an operator. -/
def operate (s : OpenSet) : OpenSet := ⟨false, some s.depth, []⟩

/-- The depth of the set when it closes. -/
def closed (s : OpenSet) : Nat := s.depth + 1

end OpenSet

/-- The names of classes. -/
def classNames : List String :=
  ["alnum", "alpha", "ascii", "blank", "cntrl", "digit", "graph", "lower", "print", "punct",
    "space", "upper", "word", "xdigit"]

/-- A named class after its opening bracket, such as `:alpha:]` or `:^alpha:]`: whether it is
negated, and the characters after it. -/
def namedClass? : List Char → Option (Bool × List Char)
  | ':' :: rest =>
    let (negated, rest) := match rest with
      | '^' :: rest => (true, rest)
      | rest => (false, rest)
    match rest.dropWhile (· != ':') with
    | ':' :: ']' :: after =>
      if classNames.contains (String.ofList (rest.takeWhile (· != ':'))) then some (negated, after)
      else none
    | _ => none
  | _ => none

/-- Whether a mode can match the complement of what it can match. -/
def Mode.resolvesComplement (m : Mode) (negated : Bool) : Bool := m.unicode || !negated

/-- Whether a mode can match a named class. -/
def Mode.resolvesClass (m : Mode) (negated : Bool) : Bool :=
  m.resolvesComplement negated && !(m.unicode && m.caseless)

/-- The characters after a piece or a range of a set. Both ends of a range are characters, and the
first does not come after the last. -/
def skipElement (m : Mode) (cs : List Char) : Option (List Char) := do
  let (first, rest) ← readSetPiece m cs
  let single := if first.resolvesInSet m then some (m.skip rest) else none
  match m.skip rest with
  | '-' :: rest =>
    if m.peek? rest = some ']' ∨ m.peek? rest = some '-' then single
    else
      match first, ← readSetPiece m (m.skip rest) with
      | .char a _, (.char b _, rest) =>
        if a ≤ b ∧ Piece.resolvesChar m a ∧ Piece.resolvesChar m b then some rest else none
      | _, _ => none
  | _ => single

/-- A set after its opening bracket and the mark of a complement. -/
def openSet? (m : Mode) (cs : List Char) : Option (List Char) :=
  match m.skip cs with
  | '^' :: rest => if m.resolvesComplement true then some rest else none
  | rest => some rest

/-- Reads a set from inside of it. The sets around it are given from the inside out. Fuel is bounded
by the number of characters. -/
def readSetWithin (m : Mode) : Nat → OpenSet → List OpenSet → List Char → Option (Nat × List Char)
  | 0, _, _, _ => none
  | fuel + 1, s, outer, cs =>
    match s.isFresh, m.skip cs with
    | _, [] => none
    | true, '-' :: rest =>
      if Piece.resolvesChar m '-' then readSetWithin m fuel s.addHyphen outer rest else none
    | fresh, ']' :: rest =>
      if fresh && s.elements.isEmpty then
        if Piece.resolvesChar m ']' then readSetWithin m fuel (s.add 0) outer rest else none
      else
        match outer with
        | [] => some (s.closed, rest)
        | around :: outer => readSetWithin m fuel (around.add s.closed) outer rest
    | _, '[' :: rest =>
      match namedClass? rest with
      | some (negated, rest) =>
        if m.resolvesClass negated then readSetWithin m fuel (s.add 0) outer rest else none
      | none => (openSet? m rest).bind (readSetWithin m fuel .opened (s :: outer))
    | _, '&' :: '&' :: rest => readSetWithin m fuel s.operate outer rest
    | _, '-' :: '-' :: rest => readSetWithin m fuel s.operate outer rest
    | _, '~' :: '~' :: rest => readSetWithin m fuel s.operate outer rest
    | _, cs => (skipElement m cs).bind (readSetWithin m fuel (s.add 0) outer)

/-- **Reads a set** after its opening bracket: its depth, and the characters after it. -/
def readSet (m : Mode) (cs : List Char) : Option (Nat × List Char) :=
  (openSet? m cs).bind (readSetWithin m (cs.length + 1) .opened [])

end RowGuard.Pattern
