/-!
# Failures

How an operation can end without an answer.  A `Fault` is reported to the caller in words; an
`Abort` ends the whole run.  Each fault names its cause, and `Fault.message` is the only place that
puts causes into words.
-/

namespace LogTable

/-- Why a run ends without reporting a fault. -/
inductive Abort where
  /-- A sum of machine integers left their range. -/
  | addOverflow
  /-- A product of machine integers left their range. -/
  | mulOverflow
  /-- The table engine gave up in a state that it does not handle. -/
  | internal
  deriving DecidableEq, Repr

namespace Abort

/-- The words of an abort, as far as they are fixed. -/
def message : Abort → String
  | addOverflow => "attempt to add with overflow"
  | mulOverflow => "attempt to multiply with overflow"
  | internal => "panic"

/-- The abort is one of machine arithmetic. -/
def isOverflow : Abort → Bool
  | addOverflow => true
  | mulOverflow => true
  | internal => false

end Abort

/-- What is wrong with the settings of a run. -/
inductive SettingsFault where
  | noBatches
  | noRows
  /-- The row is stamped before the earliest representable instant. -/
  | rowOutOfRange (row : Nat)
  | emptyTableName
  /-- The trimmed table name is not one plain path segment. -/
  | notOneSegment (name : String)
  | bucketMissing
  deriving DecidableEq, Repr

namespace SettingsFault

/-- The words of a settings fault. -/
def message : SettingsFault → String
  | noBatches => "at least one batch is required"
  | noRows => "rows per batch must be positive"
  | rowOutOfRange row => s!"row {row} falls outside the supported date range"
  | emptyTableName => "table name is empty"
  | notOneSegment name => s!"table name must be a single path segment: {name}"
  | bucketMissing => "S3_BUCKET is required when AWS_ACCESS_KEY_ID is set"

end SettingsFault

/-- Why the file system refuses a path. -/
inductive PathFault where
  | notFound
  | notADirectory
  | isADirectory
  | nameTooLong
  | invalidArgument
  | directoryNotEmpty
  | containsNul
  | alreadyExists
  deriving DecidableEq, Repr

namespace PathFault

/-- The system's words for a refused path. -/
def message : PathFault → String
  | notFound => "No such file or directory (os error 2)"
  | alreadyExists => "File exists (os error 17)"
  | notADirectory => "Not a directory (os error 20)"
  | isADirectory => "Is a directory (os error 21)"
  | invalidArgument => "Invalid argument (os error 22)"
  | nameTooLong => "File name too long (os error 36)"
  | directoryNotEmpty => "Directory not empty (os error 39)"
  | containsNul => "file name contained an unexpected NUL byte"

end PathFault

/-- What the table engine was doing when it failed. -/
inductive Activity where
  | opening
  | appending
  | deleting
  deriving DecidableEq, Repr

namespace Activity

/-- The word for an activity. -/
def word : Activity → String
  | opening => "open"
  | appending => "append"
  | deleting => "delete"

end Activity

/-- A failure that is reported to the caller. -/
inductive Fault where
  | settings (fault : SettingsFault)
  /-- Removing the directory at `path` failed. -/
  | files (path : String) (fault : PathFault)
  | table (during : Activity)
  /-- A checkpoint could not be put in place. -/
  | checkpoint
  /-- A live data file could not be read. -/
  | scan
  deriving DecidableEq, Repr

namespace Fault

/-- The words of a fault. -/
def message : Fault → String
  | settings fault => "config error: " ++ fault.message
  | files path fault => s!"io ({path}): {fault.message}"
  | table during => s!"delta ({during.word})"
  | checkpoint => "checkpoint"
  | scan => "scan"

end Fault

/-- An operation that gives no answer either reports a fault or aborts the run. -/
inductive Failure where
  | fault (fault : Fault)
  | abort (abort : Abort)
  deriving DecidableEq, Repr

namespace Failure

/-- A settings fault as a failure. -/
abbrev settings (fault : SettingsFault) : Failure :=
  .fault (.settings fault)

/-- A failure of the table engine. -/
abbrev table (during : Activity) : Failure :=
  .fault (.table during)

end Failure

end LogTable
