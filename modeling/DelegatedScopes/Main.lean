import DelegatedScopes.CommandLine.Run
import Std.Time.DateTime.Timestamp

/-!
# The program

Arguments, environment, files and the clock come from the system; what to do with them is decided
by `CommandLine.run`.
-/

namespace DelegatedScopes.CommandLine

/-- The time on the system's clock. -/
def currentTime : IO Instant := do
  let nanos : Int := (← Std.Time.Timestamp.now).toNanosecondsSinceUnixEpoch.val
  return ⟨nanos / 1000000000, (nanos % 1000000000).toNat⟩

/-- The content of a file, if it can be read. -/
def content? (path : Text) : IO (Option Text) := do
  match ← (IO.FS.readFile (String.ofList path)).toBaseIO with
  | .ok content => return some content.toList
  | .error _ => return none

/-- The environment variables that limit the service. -/
def currentEnvironment : IO Environment := do
  let maxSteps ← IO.getEnv "SCOPEGATE_MAX_EXPANSION_STEPS"
  let lastUsedDelay ← IO.getEnv "SCOPEGATE_MAX_LAST_USED_DELAY_SECS"
  return ⟨maxSteps.map String.toList, lastUsedDelay.map String.toList⟩

/-- The files that the arguments ask for, with their contents. -/
def contents (e : Environment) (args : List Text) : IO (List (Text × Option Text)) :=
  match Invocation.parse e args with
  | some (.run _ command) => command.files.mapM fun path => return (path, ← content? path)
  | _ => return []

end DelegatedScopes.CommandLine

open DelegatedScopes CommandLine in
/-- Runs the program. -/
def main (args : List String) : IO UInt32 := do
  let args := args.map String.toList
  let e ← currentEnvironment
  let files ← contents e args
  let file? (path : Text) : Option Text := (files.lookup path).join
  let outcome := run ⟨file?, ← currentTime⟩ e args
  IO.print (String.ofList outcome.output)
  if let some message := outcome.failure then
    IO.eprintln (String.ofList ("Error: ".toList ++ message))
  return outcome.exit.toUInt32
