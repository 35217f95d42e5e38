/-!
# Arguments

`Arguments.ofList` reads the arguments of a run: options with a value, as `--name value` or
`--name=value`, and flags.  A `UsageFault` says why arguments are refused.
-/

namespace LogTable

/-- Why arguments are refused. -/
inductive UsageFault where
  | unknownArgument
  /-- A value is missing, or empty where it must not be. -/
  | invalidValue
  /-- A value is no number. -/
  | valueValidation
  /-- An option or flag is given twice. -/
  | argumentConflict
  /-- A flag is given a value. -/
  | tooManyValues
  /-- The arguments ask for help. -/
  | displayHelp
  deriving DecidableEq, Repr

/-- The options that take a value. -/
inductive ValueOption where
  | config
  | table
  | localRoot
  | batches
  | rows
  | message
  | deletePredicate
  | partitionBy
  deriving DecidableEq, Repr

/-- The flags. -/
inductive Flag where
  | noDelete
  | noCheckpoint
  | keepExisting
  deriving DecidableEq, Repr

namespace ValueOption

/-- All options with a value. -/
def all : List ValueOption :=
  [config, table, localRoot, batches, rows, message, deletePredicate, partitionBy]

/-- The name of an option. -/
def name : ValueOption → String
  | config => "config"
  | table => "table"
  | localRoot => "local-root"
  | batches => "batches"
  | rows => "rows"
  | message => "message"
  | deletePredicate => "delete-predicate"
  | partitionBy => "partition-by"

end ValueOption

namespace Flag

/-- All flags. -/
def all : List Flag := [noDelete, noCheckpoint, keepExisting]

/-- The name of a flag. -/
def name : Flag → String
  | noDelete => "no-delete"
  | noCheckpoint => "no-checkpoint"
  | keepExisting => "keep-existing"

end Flag

/-- The arguments of a run. -/
structure Arguments where
  /-- The path of the configuration file. -/
  config : Option String := none
  table : Option String := none
  localRoot : Option String := none
  batches : Option UInt64 := none
  rows : Option UInt64 := none
  message : Option String := none
  deletePredicate : Option String := none
  /-- All values of the option, taken apart at their commas. -/
  partitionBy : List String := []
  noDelete : Bool := false
  noCheckpoint : Bool := false
  keepExisting : Bool := false
  deriving DecidableEq, Repr

namespace Arguments

/-- The count that a text stands for: decimal digits, with a plus sign in front perhaps. -/
def count? (s : String) : Option UInt64 :=
  let digits := match s.toList with
    | '+' :: rest => rest
    | cs => cs
  if digits ≠ [] ∧ digits.all Char.isDigit then
    let n := digits.foldl (fun n d => 10 * n + (d.toNat - 48)) 0
    if n < UInt64.size then some (UInt64.ofNat n) else none
  else none

/-- A value for a setting that must not have one yet. -/
def once {α : Type} (old : Option α) (value : Except UsageFault α) :
    Except UsageFault (Option α) :=
  if old.isSome then .error .argumentConflict else value.map some

/-- A value that has to be a count. -/
def countValue (s : String) : Except UsageFault UInt64 :=
  match count? s with
  | some n => .ok n
  | none => .error .valueValidation

/-- A value that must not be empty. -/
def pathValue (s : String) : Except UsageFault String :=
  if s = "" then .error .invalidValue else .ok s

/-- The arguments with a further option. -/
def withValue (arguments : Arguments) (option : ValueOption) (value : String) :
    Except UsageFault Arguments := do
  match option with
  | .config => return { arguments with config := ← once arguments.config (.ok value) }
  | .table => return { arguments with table := ← once arguments.table (.ok value) }
  | .localRoot =>
    return { arguments with localRoot := ← once arguments.localRoot (pathValue value) }
  | .batches => return { arguments with batches := ← once arguments.batches (countValue value) }
  | .rows => return { arguments with rows := ← once arguments.rows (countValue value) }
  | .message => return { arguments with message := ← once arguments.message (.ok value) }
  | .deletePredicate =>
    return { arguments with deletePredicate := ← once arguments.deletePredicate (.ok value) }
  | .partitionBy =>
    let names := (value.toList.splitOn ',').map String.ofList
    return { arguments with partitionBy := arguments.partitionBy ++ names }

/-- The arguments with a further flag. -/
def withFlag (arguments : Arguments) : Flag → Except UsageFault Arguments
  | .noDelete =>
    if arguments.noDelete then .error .argumentConflict else .ok { arguments with noDelete := true }
  | .noCheckpoint =>
    if arguments.noCheckpoint then .error .argumentConflict
    else .ok { arguments with noCheckpoint := true }
  | .keepExisting =>
    if arguments.keepExisting then .error .argumentConflict
    else .ok { arguments with keepExisting := true }

/-- What has been read so far. -/
structure Progress where
  arguments : Arguments := {}
  /-- The last option, whose value is still to come or still to be looked at. -/
  pending : Option (ValueOption × Option String) := none
  /-- Two dashes have been read, behind which no options follow. -/
  trailing : Bool := false

namespace Progress

/-- The arguments after the last option is settled, which needs its value by now. -/
def settled (progress : Progress) : Except UsageFault Arguments :=
  match progress.pending with
  | none => .ok progress.arguments
  | some (_, none) => .error .invalidValue
  | some (option, some value) => progress.arguments.withValue option value

/-- What an argument in front of which two dashes stand does.  The last option is settled before a
known one is looked at, but an unknown one is refused at once. -/
def long (progress : Progress) (name : String) (value : Option String) :
    Except UsageFault Progress :=
  match ValueOption.all.find? (·.name == name), Flag.all.find? (·.name == name) with
  | some option, _ => do
    let arguments ← progress.settled
    match value with
    | none => return { progress with arguments, pending := some (option, none) }
    | some value =>
      return { progress with arguments := ← arguments.withValue option value, pending := none }
  | none, some flag => do
    if value.isSome then throw .tooManyValues
    let arguments ← progress.settled
    return { progress with arguments := ← arguments.withFlag flag, pending := none }
  | none, none => do
    if name ≠ "help" then throw .unknownArgument
    if value.isSome then throw .tooManyValues
    let _ ← progress.settled
    throw .displayHelp

/-- What a plain argument does: it is the value of the last option, if that waits for one. -/
def plain (progress : Progress) (argument : String) : Except UsageFault Progress :=
  match progress.trailing, progress.pending with
  | false, some (option, none) =>
    .ok { progress with pending := some (option, some argument) }
  | _, _ => .error .unknownArgument

/-- Reads one more argument. -/
def step (progress : Progress) (argument : String) : Except UsageFault Progress :=
  if progress.trailing then progress.plain argument
  else
    match argument.toList with
    | ['-', '-'] => .ok { progress with trailing := true }
    | '-' :: '-' :: rest =>
      let name := String.ofList (rest.takeWhile (· ≠ '='))
      match rest.dropWhile (· ≠ '=') with
      | [] => progress.long name none
      | _ :: value => progress.long name (some (String.ofList value))
    | '-' :: 'h' :: _ => do
      let _ ← progress.settled
      throw .displayHelp
    | '-' :: _ :: _ => .error .unknownArgument
    | _ => progress.plain argument

end Progress

/-- Reads the arguments of a run. -/
def ofList (arguments : List String) : Except UsageFault Arguments := do
  let progress ← arguments.foldlM Progress.step {}
  progress.settled

end Arguments

end LogTable
