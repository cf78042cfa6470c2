import RowGuard.Server.Config
import RowGuard.Text.Numeral

/-!
# Settings of the server program

Settings come from the arguments, then from the environment, then from defaults. Arguments are read
from left to right up to the first fault, or up to a request for help or for the version.

* `readArguments`: what the arguments say
* `Settings.read`: the settings in force
-/

set_option autoImplicit false

namespace RowGuard.CommandLine

/-- Why the program stops at its arguments or at its environment. -/
inductive Stop where
  /-- The arguments or the environment cannot be used. -/
  | unusable
  | help
  | version
  /-- The environment asks for a number of threads that cannot be had. -/
  | threads
  deriving DecidableEq

/-- An option that takes a value. -/
inductive ValueOption where
  | host
  | port
  | databaseUrl
  | logLevel
  deriving DecidableEq

/-- What an argument asks for by its name. -/
inductive Flag where
  | value (o : ValueOption)
  | jsonLogs
  | help
  | version

/-- The flag with a long name. -/
def Flag.ofLong? : String → Option Flag
  | "host" => some (.value .host)
  | "port" => some (.value .port)
  | "database-url" => some (.value .databaseUrl)
  | "log-level" => some (.value .logLevel)
  | "json-logs" => some .jsonLogs
  | "help" => some .help
  | "version" => some .version
  | _ => none

/-- The flag with a one-letter name. -/
def Flag.ofShort? : Char → Option Flag
  | 'H' => some (.value .host)
  | 'p' => some (.value .port)
  | 'l' => some (.value .logLevel)
  | 'h' => some .help
  | 'V' => some .version
  | _ => none

/-- **What the arguments say.** -/
structure Arguments where
  host : Option String
  port : Option UInt16
  databaseUrl : Option String
  logLevel : Option String
  jsonLogs : Bool
  deriving DecidableEq

namespace Arguments

/-- No arguments. -/
def none : Arguments := ⟨.none, .none, .none, .none, false⟩

/-- The arguments with an option set. An option may be set only once, and a port is a numeral. -/
def set (a : Arguments) (o : ValueOption) (value : String) : Except Stop Arguments :=
  match o with
  | .host => if a.host.isSome then .error .unusable else .ok { a with host := some value }
  | .databaseUrl =>
    if a.databaseUrl.isSome then .error .unusable else .ok { a with databaseUrl := some value }
  | .logLevel =>
    if a.logLevel.isSome then .error .unusable else .ok { a with logLevel := some value }
  | .port =>
    match a.port, portOfText? value.toList with
    | .none, some p => .ok { a with port := some p }
    | _, _ => .error .unusable

/-- The arguments with JSON logs, which may be asked for only once. -/
def setJsonLogs (a : Arguments) : Except Stop Arguments :=
  if a.jsonLogs then .error .unusable else .ok { a with jsonLogs := true }

end Arguments

/-- Whether an argument is a name of options, or the mark after which there are none. -/
def namesOptions (arg : List Char) : Bool :=
  match arg with
  | '-' :: _ :: _ => true
  | _ => false

/-- What one argument does: it sets something by itself, or it leaves an option waiting for the next
argument. -/
inductive Reading where
  | done (a : Arguments)
  | waiting (o : ValueOption)

/-- A long name, with the value written to it after an equals sign. -/
def readLong (a : Arguments) (name : List Char) (value : Option (List Char)) :
    Except Stop Reading :=
  match Flag.ofLong? (String.ofList name), value with
  | some (.value o), some v => (a.set o (String.ofList v)).map .done
  | some (.value o), none => .ok (.waiting o)
  | some .jsonLogs, none => a.setJsonLogs.map .done
  | some .help, none => .error .help
  | some .version, none => .error .version
  | _, _ => .error .unusable

/-- A one-letter name, with the characters written to it. No equals sign is needed before a value.
-/
def readShort (a : Arguments) : List Char → Except Stop Reading
  | [] => .ok (.done a)
  | c :: rest =>
    match Flag.ofShort? c with
    | some (.value o) =>
      match rest with
      | [] => .ok (.waiting o)
      | '=' :: value => (a.set o (String.ofList value)).map .done
      | value => (a.set o (String.ofList value)).map .done
    | some .help => .error .help
    | some .version => .error .version
    | _ => .error .unusable

/-- One argument that is not the value of another. -/
def readArgument (a : Arguments) (arg : List Char) : Except Stop Reading :=
  match arg with
  | '-' :: '-' :: name =>
    match name.dropWhile (· != '=') with
    | '=' :: value => readLong a (name.takeWhile (· != '=')) (some value)
    | _ => readLong a name none
  | '-' :: c :: rest => readShort a (c :: rest)
  | _ => .error .unusable

/-- **Reads arguments** after those already read. After two hyphens alone nothing may follow. -/
def readArguments (a : Arguments) : List String → Except Stop Arguments
  | [] => .ok a
  | [arg] =>
    if arg = "--" then .ok a
    else
      match readArgument a arg.toList with
      | .ok (.done a) => .ok a
      | .ok (.waiting _) => .error .unusable
      | .error stop => .error stop
  | arg :: next :: rest =>
    if arg = "--" then .error .unusable
    else
      match readArgument a arg.toList with
      | .error stop => .error stop
      | .ok (.done a) => readArguments a (next :: rest)
      | .ok (.waiting o) =>
        if namesOptions next.toList then .error .unusable
        else
          match a.set o next with
          | .ok a => readArguments a rest
          | .error stop => .error stop

/-- **The settings in force.** -/
structure Settings where
  listen : Server.Config
  databaseUrl : Option String
  jsonLogs : Bool
  logLevel : String

/-- A port from the environment, if one is there. -/
def portFrom (value : Option String) : Except Stop (Option UInt16) :=
  match value with
  | none => .ok none
  | some s =>
    match portOfText? s.toList with
    | some p => .ok (some p)
    | none => .error .unusable

/-- A truth value from the environment, false if none is there. -/
def truthFrom (value : Option String) : Except Stop Bool :=
  match value with
  | none => .ok false
  | some "true" => .ok true
  | some "false" => .ok false
  | some _ => .error .unusable

/-- The greatest number of threads that a list can be made of. -/
def maxThreads : Nat := 0x1000000000000000 - 1

/-- Refuses a number of threads from the environment that cannot be had: it is a numeral without a
minus sign, and not zero. -/
def checkThreads (value : Option String) : Except Stop Unit :=
  match value with
  | none => .ok ()
  | some s =>
    match s.toList.head?, numeral? s.toList with
    | some '-', _ => .error .threads
    | _, some n => if 0 < n ∧ n ≤ maxThreads then .ok () else .error .threads
    | _, none => .error .threads

/-- **The settings** that arguments and environment make. The number of threads is looked at before
the arguments. What an argument sets is not looked up in the environment. -/
def Settings.read (args : List String) (env : String → Option String) : Except Stop Settings := do
  checkThreads (env "TOKIO_WORKER_THREADS")
  let a ← readArguments .none args
  let port ← if a.port.isSome then pure a.port else portFrom (env "INKWELL_PORT")
  let jsonLogs ← if a.jsonLogs then pure true else truthFrom (env "INKWELL_JSON_LOGS")
  return { listen := .choose (a.host <|> env "INKWELL_HOST") port
           databaseUrl := a.databaseUrl <|> env "INKWELL_DATABASE_URL"
           jsonLogs
           logLevel := a.logLevel.getD "info" }

/-- The name and version of the program. -/
def versionText : String := "inkwell-server 0.1.0"

/-- What the program is for. -/
def about : String := "Posts API with row-level authorization"

/-- The refusal of a database, for which this program has no driver. -/
def databaseRefusal : String :=
  "Error: a database URL was given but this build lacks the \x60postgres\x60 feature"

end RowGuard.CommandLine
