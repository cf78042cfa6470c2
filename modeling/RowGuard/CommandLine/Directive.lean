import RowGuard.CommandLine.LogLevel
import RowGuard.Pattern.Check

/-!
# Directives of a log filter

A directive gives the greatest level that is logged, for everything or for the targets with a given
start. In brackets it may be limited to an activity, and in braces within them to messages with a
field, or with a value of that field.

* `Directive.parse`: reads a directive, or says what is wrong with it
* `Directive.caresAbout`, `Directive.outranks`: which messages it is about, and how specific it is
-/

set_option autoImplicit false

namespace RowGuard.CommandLine

/-- What is wrong with a directive. -/
inductive DirectiveFault where
  | form
  /-- A level that is none. -/
  | level
  /-- A field whose value cannot be looked for. -/
  | field (fault : Pattern.Fault)
  /-- A piece that begins or ends inside of a character. Nothing goes on after this one. -/
  | cut
  deriving DecidableEq

/-- The wording of a fault. -/
def DirectiveFault.message : DirectiveFault → String
  | form => "invalid filter directive"
  | level =>
    "error parsing level filter: expected one of \"off\", \"error\", \"warn\", \"info\", " ++
      "\"debug\", \"trace\", or a number 0-5"
  | field .unusable => "invalid field filter: error building NFA"
  | field .wordEdges =>
    "invalid field filter: unsupported regex feature for DFAs: cannot build DFAs for regexes " ++
      "with Unicode word boundaries; switch to ASCII word boundaries, or heuristically enable " ++
      "Unicode word boundaries or use a different regex engine"
  | cut => "a filter directive is cut inside of a character"

/-- **A directive.** -/
structure Directive where
  level : LogLevel
  target : Option String
  /-- It is about what happens inside of certain activities only, or about fields with certain
  values. -/
  isDynamic : Bool
  /-- The fields a message must have. -/
  fields : List String
  deriving DecidableEq

/-- A field of a directive: its name, and whether a value is asked for. -/
structure FieldFilter where
  name : String
  hasValue : Bool

namespace FieldFilter

/-- **Reads a field.** The value after its equals sign is a number or a pattern. What follows a
second equals sign is not looked at. -/
def parse (cs : List Char) : Except DirectiveFault FieldFilter :=
  let name := String.ofList (cs.takeWhile (· != '='))
  match cs.dropWhile (· != '=') with
  | [] => .ok ⟨name, false⟩
  | _ :: rest =>
    let value := rest.takeWhile (· != '=')
    if isFloatNumeral value then .ok ⟨name, true⟩
    else
      match Pattern.check value with
      | .ok () => .ok ⟨name, true⟩
      | .error fault => .error (.field fault)

end FieldFilter

/-- The number of bytes of characters. -/
def byteCount (cs : List Char) : Nat := cs.foldr (fun c n => c.utf8Size + n) 0

/-- The characters from a byte on. No character may be cut. -/
def dropBytes : Nat → List Char → Option (List Char)
  | 0, cs => some cs
  | _ + 1, [] => none
  | n + 1, c :: rest => if c.utf8Size ≤ n + 1 then dropBytes (n + 1 - c.utf8Size) rest else none

/-- The characters up to a byte. No character may be cut. -/
def takeBytes : Nat → List Char → Option (List Char)
  | 0, _ => some []
  | _ + 1, [] => none
  | n + 1, c :: rest =>
    if c.utf8Size ≤ n + 1 then (takeBytes (n + 1 - c.utf8Size) rest).map (c :: ·) else none

/-- What a directive is read as at some place in it. A place is given where the part that is being
read began. -/
inductive DirectivePart where
  | start
  | name
  | activity (since : Nat)
  | field (since : Nat)
  | fieldsDone
  | limitsDone
  | level (since : Nat)
  deriving DecidableEq

/-- **A directive that is being read.** -/
structure DirectiveDraft where
  part : DirectivePart
  target : Option String
  /-- It is limited to an activity. -/
  inActivity : Bool
  field : Option FieldFilter

namespace DirectiveDraft

/-- A directive of which nothing has been read. -/
def blank : DirectiveDraft := ⟨.start, none, false, none⟩

/-- Whether a character may start a target or a level. -/
def startsName (c : Char) : Bool := c == '-' || c == ':' || c == '_' || isAlphanumeric c

/-- A piece of the text between two places. -/
def piece (text : List Char) (since upTo : Nat) : Except DirectiveFault (List Char) :=
  match (dropBytes since text).bind (takeBytes (upTo - since)) with
  | some cs => .ok cs
  | none => .error .cut

/-- **Reads one more character** at a place. -/
def step (text : List Char) (d : DirectiveDraft) (place : Nat) (c : Char) :
    Except DirectiveFault DirectiveDraft :=
  let next := place + 1
  match d.part with
  | .start =>
    if c = '[' then .ok { d with part := .activity next }
    else if startsName c then .ok { d with part := .name }
    else .error .form
  | .name =>
    if c = '=' ∨ c = '[' then do
      let name ← piece text 0 place
      let part := if c = '=' then .level next else .activity next
      return { d with part, target := some (String.ofList name) }
    else .ok d
  | .activity since =>
    if c = ']' ∨ c = '\x7b' then do
      let activity ← piece text since place
      if c = ']' then return { d with part := .limitsDone, inActivity := true }
      else return { d with part := .field next, inActivity := !activity.isEmpty }
    else .ok d
  | .field since =>
    if c = '\x7d' then do
      let cs ← piece text since place
      if cs.isEmpty then throw .form
      return { d with part := .fieldsDone, field := some (← FieldFilter.parse cs) }
    else .ok d
  | .fieldsDone => if c = ']' then .ok { d with part := .limitsDone } else .error .form
  | .limitsDone => if c = '=' then .ok { d with part := .level next } else .error .form
  | .level _ => .ok d

/-- Reads all characters from a place on. -/
def readFrom (text : List Char) : DirectiveDraft → Nat → List Char →
    Except DirectiveFault DirectiveDraft
  | d, _, [] => .ok d
  | d, place, c :: rest => do readFrom text (← d.step text place c) (place + c.utf8Size) rest

/-- The directive with a level. -/
def withLevel (d : DirectiveDraft) (level : LogLevel) : Directive :=
  { level
    target := d.target
    isDynamic := d.inActivity || d.field.any FieldFilter.hasValue
    fields := (d.field.map FieldFilter.name).toList }

/-- **The directive at the end of a text.** A name alone is a level or else a target, which logs
everything; so does a level left out. -/
def finish (text : List Char) (d : DirectiveDraft) : Except DirectiveFault Directive :=
  match d.part with
  | .name =>
    let name := String.ofList text
    match LogLevel.ofText? name with
    | some level => .ok (d.withLevel level)
    | none => .ok ({ d with target := some name }.withLevel .trace)
  | .limitsDone => .ok (d.withLevel .trace)
  | .level since => do
    let cs ← piece text since (byteCount text)
    if cs.isEmpty then return d.withLevel .trace
    match LogLevel.ofText? (String.ofList cs) with
    | some level => return d.withLevel level
    | none => throw .level
  | _ => .error .form

end DirectiveDraft

namespace Directive

/-- **Reads a directive.** Blanks around it are passed over, but not taken out: places are counted
without the blanks before it, and its pieces are cut out of the text with all its blanks. -/
def parse (text : String) : Except DirectiveFault Directive := do
  let cs := text.toList
  let draft ← DirectiveDraft.blank.readFrom cs 0 (trimBlanks cs)
  draft.finish cs

/-- Whether a directive cares about a message with a target and fields. -/
def caresAbout (d : Directive) (target : String) (fields : List String) : Bool :=
  !d.isDynamic &&
    (match d.target with
      | some t => t.isPrefixOf target
      | none => true) && d.fields.all fields.contains

/-- How specific a directive is: the length of its target, then the number of its fields. -/
def specificity (d : Directive) : Nat × Nat :=
  (match d.target with
    | some t => t.utf8ByteSize + 1
    | none => 0, d.fields.length)

/-- Whether a directive goes before another one, when the other one stands later. -/
def outranks (d other : Directive) : Bool :=
  let (a, b) := d.specificity
  let (c, e) := other.specificity
  decide (c < a) || (a == c && decide (e < b)) ||
    (a == c && e == b && decide (other.fields.headD "" < d.fields.headD ""))

end Directive

end RowGuard.CommandLine
