import RowGuard.Text.Blank

/-!
# Modes of a pattern

A pattern is a regular expression. Its switches, such as `(?i)`, change how the text after them is
read and matched, up to the end of the group they stand in.

* `Mode.skip`: what is passed over between the parts of a pattern
* `Mode.switched`: the mode after switches
* `depthOf`: how deep parts are nested that stand side by side
-/

set_option autoImplicit false

namespace RowGuard.Pattern

/-- **How a pattern is read and matched.** -/
structure Mode where
  /-- Letters match in both cases. -/
  caseless : Bool
  /-- What matches is characters, and not bytes. -/
  unicode : Bool
  /-- Blanks and comments are passed over. -/
  spaced : Bool
  deriving DecidableEq

/-- The characters from the first that is neither a blank nor part of a comment. A comment goes from
a number sign to the end of its line. -/
def skipSpaces (inComment : Bool) : List Char → List Char
  | [] => []
  | c :: rest =>
    if inComment then skipSpaces (c != '\n') rest
    else if isBlank c then skipSpaces false rest
    else if c == '#' then skipSpaces true rest
    else c :: rest

namespace Mode

/-- The mode at the start of a pattern. -/
def initial : Mode := ⟨false, true, false⟩

/-- The characters from the next part of a pattern on. -/
def skip (m : Mode) (cs : List Char) : List Char := if m.spaced then skipSpaces false cs else cs

/-- The next character that is not passed over. Of a comment only the number sign is. -/
def peek? (m : Mode) (cs : List Char) : Option Char :=
  if m.spaced then
    match dropBlanks cs with
    | '#' :: rest => (dropBlanks rest).head?
    | rest => rest.head?
  else cs.head?

/-- **The mode after switches.** Those after a hyphen are turned off. -/
def switched (m : Mode) (letters : List Char) : Mode :=
  let on := letters.takeWhile (· != '-')
  let off := letters.dropWhile (· != '-')
  let state (letter : Char) (old : Bool) := on.contains letter || (old && !off.contains letter)
  ⟨state 'i' m.caseless, state 'u' m.unicode, state 'x' m.spaced⟩

end Mode

/-- Whether characters are switches: none twice, and no hyphen at the end. -/
def areSwitches (letters : List Char) : Bool :=
  (letters.all "-imsUuRx".toList.contains) && decide letters.Nodup && letters.getLast? != some '-'

/-- **How deep parts are nested** that stand side by side, given the depth of each. Two of them or
more are a part of their own. -/
def depthOf : List Nat → Nat
  | [] => 0
  | [d] => d
  | ds => ds.foldl max 0 + 1

end RowGuard.Pattern
