import LogTable.Storage
import LogTable.Text.Quoted

/-!
# The journal of a run

A run records what it does as a list of events.  `Event.line` is the text of the log for an event:
its level, the part of the program that speaks, what happened and the values that belong to it.  The
order in which options are shown is left open (`OptionOrder`).

The log is written between other output, and only the shape of a line tells which is which: a line
of the log starts with a time and a level.  A value with line breaks spreads the text of its event
over several lines, and any of them may have that shape (`LogLine.ofText?`).
-/

namespace LogTable

/-- An order in which options are shown. -/
class OptionOrder where
  /-- The options in this order. -/
  arrange (options : Options) : Options
  arrange_perm (options : Options) : (arrange options).Perm options

/-- What a run records. -/
inductive Event where
  | loadingConfiguration (path : String)
  | starting (mode : StorageMode) (table : String)
  /-- The options are the ones that are shown. -/
  | storageSelected (uri : String) (options : Options)
  | tableRemoved (path : String)
  | batchAppended (uri : String) (version rows : Nat)
  | rowsDeleted (uri predicate : String) (version rows : Nat)
  | checkpointCreated (uri : String) (version : Nat)
  | tableSummary (uri : String) (version rowsWritten rows files : Nat)
  | done (versions : List Nat) (deleted : Nat) (checkpoint : Option Nat) (rows : Nat)
  | failed (message : String)
  deriving DecidableEq, Repr

namespace Event

/-- A list between brackets. -/
def bracketed (items : List String) : String :=
  "[" ++ String.intercalate ", " items ++ "]"

/-- The text of an option. -/
def entry (option : String × String) : String :=
  Text.quoted option.1 ++ ": " ++ Text.quoted option.2

/-- Options between braces. -/
def braced [OptionOrder] (options : Options) : String :=
  "\x7b" ++ String.intercalate ", " ((OptionOrder.arrange options).map entry) ++ "\x7d"

/-- A version that a run may not have made. -/
def optional : Option Nat → String
  | some version => s!"Some({version})"
  | none => "None"

/-- The text of the log for an event. -/
def line [OptionOrder] : Event → String
  | loadingConfiguration path => "DEBUG lake_demo: loading configuration config=" ++ path
  | starting mode table =>
    "INFO lake_demo::cmd::run: starting mode=" ++ Text.quoted mode.word ++ " table=" ++ table
  | storageSelected uri options =>
    "INFO lake_writer::scenario: storage selected uri=" ++ uri ++ " options=" ++ braced options
  | tableRemoved path => "INFO lake_writer::storage: removed existing local table path=" ++ path
  | batchAppended uri version rows =>
    s!"INFO lake_writer::table: appended batch uri={uri} version={version} rows={rows}"
  | rowsDeleted uri predicate version rows =>
    "INFO lake_writer::table: deleted rows uri=" ++ uri ++ " predicate=" ++
      Text.quoted predicate ++ s!" version={version} rows_deleted={rows}"
  | checkpointCreated uri version =>
    s!"INFO lake_writer::table: checkpoint created uri={uri} version={version}"
  | tableSummary uri version rowsWritten rows files =>
    s!"INFO lake_writer::scenario: table summary uri={uri} version={version} rows_written=" ++
      s!"{rowsWritten} rows={rows} files={files}"
  | done versions deleted checkpoint rows =>
    "INFO lake_demo::cmd::run: done versions=" ++ bracketed (versions.map toString) ++
      s!" rows_deleted={deleted} checkpoint=" ++ optional checkpoint ++ s!" rows={rows}"
  | failed message => "ERROR lake_demo: lake-demo failed error=" ++ message

variable [OptionOrder]

/-- The first line of an event, which stands behind a time. -/
def logLine (event : Event) : String :=
  (event.line.splitOn "\n").headD ""

/-- The lines of an event behind the first. -/
def furtherLines (event : Event) : List String :=
  (event.line.splitOn "\n").tail

end Event

namespace LogLine

/-- How a time is written; the zeros stand for digits. -/
def timeShape : List Char := "0000-00-00T00:00:00.000000Z".toList

/-- The levels of a log. -/
def levels : List String := ["TRACE", "DEBUG", "INFO", "WARN", "ERROR"]

/-- The characters are a time. -/
def isTime (cs : List Char) : Bool :=
  cs.length = timeShape.length &&
    (cs.zip timeShape).all fun (c, shape) => if shape = '0' then c.isDigit else c = shape

/-- The line of the log that a line of output is: what follows its time, if a level comes first. -/
def ofText? (text : String) : Option String :=
  let (front, rest) := text.toList.splitAt timeShape.length
  let words := rest.dropWhile (· = ' ')
  let startsWithLevel := levels.any fun level => (level ++ " ").toList.isPrefixOf words
  if isTime front && rest.head? = some ' ' && startsWithLevel then some (String.ofList words)
  else none

end LogLine

namespace Event

/-- Puts an option in front of the first one whose text is greater. -/
def insertByEntry (option : String × String) : Options → Options
  | [] => [option]
  | other :: options =>
    if entry option ≤ entry other then option :: other :: options
    else other :: insertByEntry option options

theorem insertByEntry_perm (option : String × String) (options : Options) :
    (insertByEntry option options).Perm (option :: options) := by
  induction options with
  | nil => exact .refl _
  | cons other options ih =>
    unfold insertByEntry
    split
    · exact .refl _
    · exact (ih.cons other).trans (.swap option other options)

end Event

/-- Options in the order of their texts. -/
instance OptionOrder.byEntry : OptionOrder where
  arrange options := options.foldr Event.insertByEntry []
  arrange_perm options := by
    induction options with
    | nil => exact .refl _
    | cons option options ih =>
      exact (Event.insertByEntry_perm option _).trans (ih.cons option)

end LogTable
