import GatewayRouting.CommandLine.Arguments
import GatewayRouting.Document.Json.Pretty

/-!
The command on the command line.
-/

namespace GatewayRouting

namespace LogEntry

/-- A log line as it is shown. -/
def shown (json : Bool) (entry : LogEntry) : String :=
  if json then
    Json.write (.named [
      ("level", .text (entry.level.name)),
      ("fields", .named [("message", .text entry.message)])])
  else entry.level.name ++ " " ++ entry.message

end LogEntry

namespace CommandError

/-- A fault with its causes, as it is shown. -/
def shown (e : CommandError) : String :=
  "Error: " ++ e.message ++
    (if e.causes.isEmpty then "" else "\n\nCaused by:" ++ String.join (e.causes.map ("\n    " ++ ·)))

end CommandError

namespace CommandLine

/-- The text of a file, if it can be read. -/
def readText (path : String) : IO (Option String) := do
  match ← (IO.FS.readBinFile path).toBaseIO with
  | .ok bytes => pure (String.fromUTF8? bytes)
  | .error _ => pure none

/-- Runs the command and writes what it says. -/
def execute (o : CommandOptions) : IO UInt32 := do
  IO.println (LogEntry.shown o.logJson ⟨.info, "Loading configuration from \x22" ++ o.config ++ "\x22"⟩)
  let outcome := run o (← readText o.config)
  for entry in outcome.log.filter (isShown o) do
    IO.println (entry.shown o.logJson)
  match outcome.value with
  | .ok output =>
    for document in output.toList do
      IO.println (Json.pretty document)
    return 0
  | .error e =>
    IO.eprintln e.shown
    return 1

end CommandLine

end GatewayRouting

def main (args : List String) : IO UInt32 := do
  match GatewayRouting.CommandOptions.parse args with
  | .ok options => GatewayRouting.CommandLine.execute options
  | .error e =>
    IO.eprintln ("error: " ++ e.message)
    return 2
