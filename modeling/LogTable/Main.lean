import LogTable.Program
import Std.Time.DateTime.Timestamp

/-!
# The command line

`main` runs the program with the arguments, the environment and the clock of its process.  The
configuration file is read from the disk; the tables of the run live in a world of their own.
-/

namespace LogTable

/-- The variables that a run looks at. -/
def Environment.inspected : List String :=
  [Arguments.configVariable, StorageVariable.accessKey.name, StorageVariable.secretKey.name,
    StorageVariable.endpoint.name, StorageVariable.bucket.name, StorageVariable.region.name]

/-- The environment of the process. -/
def Environment.ofProcess : IO Environment := do
  let found ← inspected.filterMapM fun name => do
    return (← IO.getEnv name).map fun value => (name, value)
  return ofList found

/-- The time of the clock. -/
def Instant.now : IO Instant := do
  return ⟨(← Std.Time.Timestamp.now).toNanosecondsSinceUnixEpoch.val⟩

/-- The world with the file or directory that stands at a path on the disk, if there is one. -/
def World.withPath (world : World) (path : String) : IO World := do
  try
    let data ← IO.FS.readBinFile path
    let folder := String.ofList (path.toList.reverse.dropWhile (· ≠ '/')).reverse
    let (_, tree) := world.tree.createDirectories world.home folder
    match tree.write world.home path (.bytes data) with
    | .ok tree => return { world with tree }
    | .error _ => return world
  catch
    | .inappropriateType .. =>
      return { world with tree := (world.tree.createDirectories world.home path).2 }
    | _ => return world

/-- The words of help. -/
def Arguments.help : String :=
  let options := ValueOption.all.map fun option => s!"  --{option.name} <VALUE>"
  let flags := Flag.all.map fun flag => s!"  --{flag.name}"
  String.intercalate "\n" ("Writes demo batches into a table" :: options ++ flags)

end LogTable

open LogTable

/-- Runs the program once. -/
def main (argv : List String) : IO UInt32 := do
  let env ← Environment.ofProcess
  let world ← match Arguments.ofList argv with
    | .ok arguments => World.fresh.withPath (arguments.configPath env)
    | .error _ => pure World.fresh
  let now ← Instant.now
  let (outcome, world) := Program.run argv env (fun _ => now) world
  for event in world.journal do
    IO.println event.line
  match outcome with
  | .refused .displayHelp => IO.println Arguments.help
  | .refused _ => IO.eprintln Arguments.help
  | .succeeded line => IO.println line
  | .failed _ => IO.eprintln outcome.complaint
  | .aborted abort => IO.eprintln abort.message
  return outcome.exitStatus.toUInt32
