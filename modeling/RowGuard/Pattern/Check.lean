import RowGuard.Pattern.CharSet
import RowGuard.Text.Alphanumeric

/-!
# Patterns that can be matched

A pattern is a choice of branches, a branch a row of items, and an item a piece, a set, a group or a
repetition of such. `check` says whether a text is a pattern and can be matched without tables of
characters.

A pattern ends before the first closing brace of the text it stands in. So no repetition with a
count in braces can be written, and an opening brace that is not escaped is a fault.
-/

set_option autoImplicit false

namespace RowGuard.Pattern

/-- Why a text is of no use as a pattern. -/
inductive Fault where
  /-- It is malformed, too deep, or asks for what a mode cannot match. -/
  | unusable
  /-- It asks for the edges of words of Unicode characters. -/
  | wordEdges
  deriving DecidableEq

/-- **A choice that is still open**: the whole pattern, or a group. -/
structure Choice where
  /-- The depths of the branches before the last. -/
  branches : List Nat
  /-- The depths of the items of the last branch, the latest first. Switches count as items. -/
  items : List Nat
  /-- The latest item may be repeated. -/
  repeatable : Bool

namespace Choice

/-- A choice with nothing in it. -/
def blank : Choice := ⟨[], [], false⟩

/-- The choice with one more item. -/
def add (c : Choice) (depth : Nat) : Choice := ⟨c.branches, depth :: c.items, true⟩

/-- The choice with switches in it. -/
def addSwitches (c : Choice) : Choice := ⟨c.branches, 0 :: c.items, false⟩

/-- The choice with its latest item repeated. -/
def repeated? (c : Choice) : Option Choice :=
  match c.repeatable, c.items with
  | true, d :: rest => some ⟨c.branches, (d + 1) :: rest, true⟩
  | _, _ => none

/-- The choice at the start of a new branch. -/
def branch (c : Choice) : Choice := ⟨depthOf c.items :: c.branches, [], false⟩

/-- The depth of the choice. -/
def depth (c : Choice) : Nat := depthOf (depthOf c.items :: c.branches)

end Choice

/-- **What is known of a pattern** up to some place in it. -/
structure Progress where
  mode : Mode
  choice : Choice
  /-- The modes and choices around it, from the inside out. -/
  outer : List (Mode × Choice)
  /-- The names of groups. -/
  names : List (List Char)
  /-- Edges of words of Unicode characters are asked for. -/
  hasWordEdges : Bool

/-- Whether a text is the name of a group. -/
def isGroupName : List Char → Bool
  | [] => false
  | c :: rest =>
    (c == '_' || isAlphabetic c) &&
      rest.all fun c => "_.[]".toList.contains c || isAlphanumeric c

namespace Progress

/-- The start of a pattern. -/
def initial : Progress := ⟨.initial, .blank, [], [], false⟩

/-- A step to the characters that are left. -/
abbrev Step := Option (Progress × List Char)

/-- The inside of a group, in a mode of its own. -/
def entered (p : Progress) (inside : Mode) : Progress :=
  { p with mode := inside, choice := .blank, outer := (p.mode, p.choice) :: p.outer }

/-- A group with a name, which no other group has. -/
def openNamed (p : Progress) (cs : List Char) : Step :=
  let name := cs.takeWhile (· != '>')
  match cs.dropWhile (· != '>') with
  | _ :: rest =>
    if isGroupName name && !p.names.contains name then
      some ({ p.entered p.mode with names := name :: p.names }, rest)
    else none
  | [] => none

/-- Switches: for a group, or for the rest of the one they stand in. -/
def openSwitched (p : Progress) (cs : List Char) : Step :=
  let letters := cs.takeWhile fun c => c != ':' && c != ')'
  if !areSwitches letters then none
  else
    let mode := p.mode.switched letters
    match cs.dropWhile fun c => c != ':' && c != ')' with
    | ':' :: rest => some (p.entered mode, rest)
    | _ :: rest =>
      if letters.isEmpty then none
      else some ({ p with mode, choice := p.choice.addSwitches }, rest)
    | [] => none

/-- A group after its opening parenthesis. A pattern cannot look around. -/
def openGroup (p : Progress) (cs : List Char) : Step :=
  match p.mode.skip cs with
  | '?' :: '=' :: _ => none
  | '?' :: '!' :: _ => none
  | '?' :: '<' :: '=' :: _ => none
  | '?' :: '<' :: '!' :: _ => none
  | '?' :: 'P' :: '<' :: rest => p.openNamed rest
  | '?' :: '<' :: rest => p.openNamed rest
  | '?' :: rest => p.openSwitched rest
  | rest => some (p.entered p.mode, rest)

/-- The end of a group. -/
def closeGroup (p : Progress) : Option Progress :=
  match p.outer with
  | (mode, around) :: outer =>
    some { p with mode, choice := around.add (p.choice.depth + 1), outer }
  | [] => none

/-- One piece by itself. -/
def takePiece (p : Progress) (cs : List Char) : Step :=
  (readPiece p.mode cs).bind fun (piece, rest) =>
    if piece.resolves p.mode then
      some ({ p with choice := p.choice.add 0
                     hasWordEdges := p.hasWordEdges || (p.mode.unicode && piece == .wordEdge) },
        rest)
    else none

/-- **The next step through a pattern.** A question mark after a repetition belongs to it. -/
def step (p : Progress) : List Char → Step
  | '(' :: rest => p.openGroup rest
  | ')' :: rest => p.closeGroup.map fun p => (p, rest)
  | '|' :: rest => some ({ p with choice := p.choice.branch }, rest)
  | '[' :: rest =>
    (readSet p.mode rest).map fun (depth, rest) => ({ p with choice := p.choice.add depth }, rest)
  | '\x7b' :: _ => none
  | c :: rest =>
    if "*+?".toList.contains c then
      p.choice.repeated?.map fun choice =>
        ({ p with choice }, match rest with
          | '?' :: rest => rest
          | rest => rest)
    else p.takePiece (c :: rest)
  | [] => none

/-- The end of a pattern, if it can be reached. Fuel is bounded by the number of characters. -/
def run : Nat → Progress → List Char → Option Progress
  | 0, _, _ => none
  | fuel + 1, p, cs =>
    match p.mode.skip cs with
    | [] => some p
    | cs => (p.step cs).bind fun (p, rest) => run fuel p rest

end Progress

/-- How deep the parts of a pattern may be nested. -/
def maxDepth : Nat := 250

/-- **Whether a text is a pattern that can be matched.** -/
def check (cs : List Char) : Except Fault Unit :=
  match Progress.initial.run (cs.length + 1) cs with
  | none => .error .unusable
  | some p =>
    if !p.outer.isEmpty || maxDepth < p.choice.depth then .error .unusable
    else if p.hasWordEdges then .error .wordEdges
    else .ok ()

end RowGuard.Pattern
