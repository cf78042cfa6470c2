import RowGuard.CommandLine.Directive

/-!
# What is logged

A log filter is a list of directives separated by commas. Of the directives that care about a
message the most specific one decides, and of equal ones the last.

* `isLogged`: whether a message is logged
* `Startup.of`: whether the first message of the server is logged, and what is wrong with the filter
-/

set_option autoImplicit false

namespace RowGuard.CommandLine

/-- The directive that decides among those that care: the most specific, and the last of equal ones.
-/
def deciding : List Directive → Option Directive
  | [] => none
  | d :: rest =>
    match deciding rest with
    | none => some d
    | some later => some (if d.outranks later then d else later)

/-- **Whether a message is logged.** -/
def isLogged (ds : List Directive) (level : LogLevel) (target : String) (fields : List String) :
    Bool :=
  match deciding (ds.filter fun d => d.caresAbout target fields) with
  | some d => decide (level.rank ≤ d.level.rank)
  | none => false

/-- The parts of a filter. -/
def filterParts (text : String) : List String :=
  ((text.splitOn ",").filter fun s => !s.isEmpty)

/-- Reads a filter that has to be right as a whole, up to its first fault. -/
def readFilter (text : String) : Except DirectiveFault (List Directive) :=
  (filterParts text).mapM Directive.parse

/-- Reads a filter part by part: the directives, and the complaints about parts that are none. No
part may be cut inside of a character. -/
def readFilterLoosely : List String → Option (List Directive × List String)
  | [] => some ([], [])
  | part :: rest =>
    match Directive.parse part with
    | .ok d => (readFilterLoosely rest).map fun (ds, complaints) => (d :: ds, complaints)
    | .error .cut => none
    | .error e => (readFilterLoosely rest).map fun (ds, complaints) =>
      (ds, ("ignoring \x60" ++ part ++ "\x60: " ++ e.message) :: complaints)

/-- The filter of a log level: the server's own messages up to it. -/
def levelFilter (level : String) : String :=
  "inkwell_server=" ++ level ++ ",api_server=" ++ level ++ ",inkwell_authz=" ++ level ++
    ",tower_http=info"

/-- The first message of the server. -/
def startupMessage : String := "Starting Inkwell API server"

/-- **What becomes of the first message.** -/
structure Startup where
  shown : Bool
  complaints : List String

/-- The first message under a filter from the environment, or else under a log level. A filter with
a fault counts as none, but there is no start with one that is cut inside of a character. -/
def Startup.of (filter : Option String) (level : String) : Option Startup :=
  let shows (ds : List Directive) := isLogged ds .info "inkwell_server" ["message", "version"]
  let byLevel : Option Startup :=
    (readFilterLoosely (filterParts (levelFilter level))).map fun (ds, complaints) =>
      ⟨shows ds, complaints⟩
  match filter with
  | none => byLevel
  | some text =>
    match readFilter text with
    | .ok ds => some ⟨shows ds, []⟩
    | .error .cut => none
    | .error _ => byLevel

end RowGuard.CommandLine
