import RowGuard.CommandLine.LogFilter
import RowGuard.CommandLine.Settings
import RowGuard.Json.Text

/-!
# The server program

Reads the settings, writes the first message to the log and chooses the storage. Records are kept in
memory; a database is refused.
-/

set_option autoImplicit false

namespace RowGuard.CommandLine

/-- A line of the log. -/
def logLine (json : Bool) (message : String) : String :=
  if json then
    (Json.object [("level", .string "INFO"), ("message", .string message),
      ("target", .string "inkwell_server")]).text
  else "INFO inkwell_server: " ++ message

/-- The names in the environment that matter. -/
def settingNames : List String :=
  ["INKWELL_HOST", "INKWELL_PORT", "INKWELL_DATABASE_URL", "INKWELL_JSON_LOGS", "RUST_LOG",
    "TOKIO_WORKER_THREADS"]

/-- The exit code of a start that cannot go on. -/
def brokenStart : UInt32 := 101

/-- **Runs the program** with its settings. -/
def runWith (s : Settings) (filter : Option String) : IO UInt32 := do
  let some startup := Startup.of filter s.logLevel
    | IO.eprintln DirectiveFault.cut.message
      return brokenStart
  for line in startup.complaints do
    IO.eprintln line
  let log (message : String) : IO Unit :=
    if startup.shown then IO.println (logLine s.jsonLogs message) else pure ()
  log startupMessage
  if s.databaseUrl.isSome then
    IO.eprintln databaseRefusal
    return 1
  log "Using in-memory storage"
  return 0

end RowGuard.CommandLine

open RowGuard.CommandLine in
/-- The program. -/
def main (args : List String) : IO UInt32 := do
  let env ← settingNames.mapM fun name => do return (name, ← IO.getEnv name)
  let lookup (name : String) : Option String := (env.lookup name).join
  match Settings.read args lookup with
  | .ok settings => runWith settings (lookup "RUST_LOG")
  | .error .help =>
    IO.println about
    return 0
  | .error .version =>
    IO.println versionText
    return 0
  | .error .unusable =>
    IO.eprintln "error: unusable arguments"
    return 2
  | .error .threads =>
    IO.eprintln "error: unusable number of threads"
    return brokenStart
