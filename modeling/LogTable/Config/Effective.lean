import LogTable.Config.Arguments
import LogTable.Config.Reader
import LogTable.Config.Settings
import LogTable.Scenario
import LogTable.Text.Blank

/-!
# Effective settings

The settings of a run come from its arguments, from a configuration file and from the standard
scenario, in this order of precedence.  `Scenario.ofSources` merges them, and
`Scenario.ofArguments` finds the configuration file first.
-/

namespace LogTable

/-- Why a configuration gives no scenario. -/
inductive ConfigFault where
  /-- The file at the path is there, but holds no text. -/
  | unreadable (path : String) (isDirectory : Bool)
  /-- The file at the path is no document of settings. -/
  | malformed (path : String)
  | blankPredicate
  | settings (fault : SettingsFault)
  deriving DecidableEq, Repr

namespace ConfigFault

/-- What stands in front of the first colon that a blank follows. -/
def beforeColon : List Char → List Char
  | [] => []
  | ':' :: ' ' :: _ => []
  | c :: rest => c :: beforeColon rest

/-- The words of a fault.  Of the path of a malformed file only what stands in front of the first
colon and blank is shown. -/
def message : ConfigFault → String
  | unreadable path true => s!"cannot read config {path}: {PathFault.isADirectory.message}"
  | unreadable path false => s!"cannot read config {path}: stream did not contain valid UTF-8"
  | malformed path => "bad config " ++ String.ofList (beforeColon (path ++ ": ").toList)
  | blankPredicate => "delete predicate is empty"
  | settings fault => (Fault.settings fault).message

end ConfigFault

namespace Settings

/-- The settings of the file at a path.  A path at which nothing stands makes none. -/
def ofFile (tree : FileTree Content) (home : Location) (path : String) :
    Except ConfigFault Settings :=
  match tree.resolve home path with
  | .error _ => .ok {}
  | .ok location =>
    match tree.find? location with
    | none => .ok {}
    | some .directory => .error (.unreadable path true)
    | some (.file content) =>
      match content.text? with
      | none => .error (.unreadable path false)
      | some text =>
        match Document.ofText? text with
        | none => .error (.malformed path)
        | some document => (ofDocument document).mapError fun _ => .malformed path

end Settings

namespace Arguments

/-- The variable that names the configuration file. -/
def configVariable : String := "LAKE_DEMO_CONFIG"

/-- The configuration file of a run that is told of no other. -/
def defaultConfig : String := "lake-demo.toml"

/-- The path of the configuration file. -/
def configPath (arguments : Arguments) (env : Environment) : String :=
  (arguments.config <|> env configVariable).getD defaultConfig

end Arguments

namespace Scenario

/-- The predicate of a run: none if deleting is off, and otherwise the first that is given. -/
def chosenPredicate (arguments : Arguments) (settings : Settings) : Option String :=
  if !arguments.noDelete && settings.delete.getD true then
    arguments.deletePredicate <|> settings.deletePredicate <|> standard.deletePredicate
  else none

/-- The scenario that arguments and settings make together. -/
def ofSources (arguments : Arguments) (settings : Settings) : Except ConfigFault Scenario := do
  let batches := (arguments.batches <|> settings.batches.map UInt64.ofNat).getD
    standard.plan.batches
  let rows := (arguments.rows <|> settings.rows.map UInt64.ofNat).getD standard.plan.rowsPerBatch
  let plan ← (BatchPlan.ofCounts batches rows).mapError ConfigFault.settings
  let deletePredicate := chosenPredicate arguments settings
  if deletePredicate.any Text.isBlankText then throw .blankPredicate
  return {
    table := (arguments.table <|> settings.table).getD standard.table
    localRoot := (arguments.localRoot <|> settings.localRoot).getD standard.localRoot
    plan
    message := (arguments.message <|> settings.message).getD standard.message
    deletePredicate
    checkpoint := !arguments.noCheckpoint && settings.checkpoint.getD standard.checkpoint
    partitionBy :=
      if arguments.partitionBy = [] then settings.partitionBy else arguments.partitionBy
    reset := !arguments.keepExisting && settings.reset.getD standard.reset }

/-- The scenario of a run with the given arguments and environment. -/
def ofArguments (arguments : Arguments) (env : Environment) (tree : FileTree Content)
    (home : Location) : Except ConfigFault Scenario := do
  let settings ← Settings.ofFile tree home (arguments.configPath env)
  ofSources arguments settings

end Scenario

end LogTable
