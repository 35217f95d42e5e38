import LogTable.Config.Effective
import LogTable.Predicate.Standard

/-!
# The program

`Program.run` reads the arguments of a run, finds its settings and carries out the scenario.  Its
outcome is what the program shows in the end: an exit status, a line for success, or the words of a
failure.  What it does on the way is in the journal of the world.
-/

namespace LogTable

open Predicate

/-- How a run of the program ends. -/
inductive Outcome where
  | refused (fault : UsageFault)
  /-- The scenario is carried out, and the line says so. -/
  | succeeded (line : String)
  | failed (message : String)
  | aborted (abort : Abort)
  deriving DecidableEq, Repr

namespace Outcome

/-- The exit status of a run. -/
def exitStatus : Outcome → Nat
  | refused .displayHelp => 0
  | refused _ => 2
  | succeeded _ => 0
  | failed _ => 1
  | aborted _ => 101

/-- The lines of output behind the log. -/
def closingLines : Outcome → List String
  | succeeded line => line.splitOn "\n"
  | _ => []

/-- The lines of the log after a run with the given journal. -/
def log [OptionOrder] (journal : List Event) (outcome : Outcome) : List String :=
  (journal.flatMap fun event => event.logLine :: event.furtherLines.filterMap LogLine.ofText?) ++
    outcome.closingLines.filterMap LogLine.ofText?

/-- The lines of output that are no lines of the log, after a run with the given journal. -/
def looseOutput [OptionOrder] (journal : List Event) (outcome : Outcome) : List String :=
  (journal.flatMap Event.furtherLines ++ outcome.closingLines).filter fun line =>
    (LogLine.ofText? line).isNone

/-- What a run says about its failure. -/
def complaint : Outcome → String
  | failed message => "Error: " ++ message
  | _ => ""

end Outcome

namespace Program

/-- The line that a successful run ends with. -/
def successLine (report : ScenarioReport) : String :=
  s!"Data written to Delta Lake at '{report.uri}' in " ++
    s!"{report.appendVersions.length} batches successfully!"

/-- Records a failure, which ends the run. -/
def fail (message : String) (world : World) : Outcome × World :=
  (.failed message, { world with journal := world.journal ++ [.failed message] })

/-- The run of a scenario, with its place in the journal. -/
def carryOut [Engine] (scenario : Scenario) (storage : StorageMode) (clock : Clock) :
    Run ScenarioReport := do
  Run.record (.starting storage scenario.table)
  let report ← scenario.run storage clock
  Run.record (.done report.appendVersions report.rowsDeleted report.checkpointVersion
    report.summary.rows)
  return report

/-- A run of the program on a world. -/
def run [Engine] (argv : List String) (env : Environment) (clock : Clock) (world : World) :
    Outcome × World :=
  match Arguments.ofList argv with
  | .error fault => (.refused fault, world)
  | .ok arguments =>
    let world := { world with
      journal := world.journal ++ [.loadingConfiguration (arguments.configPath env)] }
    match Scenario.ofArguments arguments env world.tree world.home with
    | .error fault => fail fault.message world
    | .ok scenario =>
      match (carryOut scenario (.ofEnvironment env) clock).start world with
      | (.ok report, world) => (.succeeded (successLine report), world)
      | (.error (.fault fault), world) => fail fault.message world
      | (.error (.abort abort), world) => (.aborted abort, world)

end Program

end LogTable
