import LogTable.Table.Content

/-!
# Logs

The log of a table is the directory `_delta_log` below its place: one file for each commit, named by
its version, checkpoints, and a pointer to the last of them.  `Log.read` takes the newest
checkpoint, replays the commits after it and gives the snapshot that results.
-/

namespace LogTable

/-- What the log at a place says. -/
inductive LogReading where
  /-- The place holds no table. -/
  | absent
  /-- The log cannot be read. -/
  | damaged
  | table (snapshot : Snapshot)
  deriving DecidableEq, Repr

namespace Log

/-- The directory of the log. -/
def directoryName : String := "_delta_log"

/-- The end of the name of a commit. -/
def commitEnding : String := ".json"

/-- The end of the name of a checkpoint. -/
def checkpointEnding : String := ".checkpoint.parquet"

/-- The file that points to the last checkpoint. -/
def pointerName : String := "_last_checkpoint"

/-- The directory of the log of the table at a place. -/
def directory (place : Location) : Location :=
  place ++ [directoryName]

/-- A version in twenty digits. -/
def versionText (version : Nat) : String :=
  Civil.padded 20 version

/-- Where the commit of a version lies. -/
def commitPath (place : Location) (version : Nat) : Location :=
  directory place ++ [versionText version ++ commitEnding]

/-- Where the checkpoint of a version lies. -/
def checkpointPath (place : Location) (version : Nat) : Location :=
  directory place ++ [versionText version ++ checkpointEnding]

/-- Where the pointer to the last checkpoint lies. -/
def pointerPath (place : Location) : Location :=
  directory place ++ [pointerName]

/-- The version that a name with the given ending stands for. -/
def versionOf? (ending name : String) : Option Nat :=
  let digits := name.toList.take 20
  if digits.length = 20 ∧ digits.all Char.isDigit ∧ name.toList.drop 20 = ending.toList then
    some (digits.foldl (fun n d => 10 * n + (d.toNat - 48)) 0)
  else none

/-- Puts a file in front of the files with the same version or later ones. -/
def insertByVersion (file : Nat × Content) : List (Nat × Content) → List (Nat × Content)
  | [] => [file]
  | other :: files =>
    if file.1 ≤ other.1 then file :: other :: files else other :: insertByVersion file files

/-- The files of a directory whose names are versions with the given ending, by version. -/
def numbered (ending : String) (files : List (String × Content)) : List (Nat × Content) :=
  (files.filterMap fun file => (versionOf? ending file.1).map fun version => (version, file.2))
    |>.foldr insertByVersion []

/-- Each version of a list is one more than the one before. -/
def isContiguous : List (Nat × Content) → Bool
  | a :: b :: rest => b.1 = a.1 + 1 && isContiguous (b :: rest)
  | _ => true

/-- A live file has an empty text in a partition column.  Such a text is stored as a missing value,
which its column does not admit. -/
def hasLostValue (file : DataFile) : Bool :=
  file.partition.any fun entry => entry.2 = .text ""

/-- The reading of a log that amounts to some contents at a version. -/
def ofContents (contents : Contents) (version : Nat) : LogReading :=
  match contents.partitionBy with
  | none => .damaged
  | some partitionBy =>
    if contents.files.any hasLostValue then .damaged
    else .table { version, partitionBy, files := contents.files }

/-- Replays commits on top of some contents and a version. -/
def replayCommits (contents : Contents) (version : Nat) (commits : List (Nat × Content)) :
    LogReading :=
  if !isContiguous commits then .damaged
  else
    match commits.mapM fun commit => commit.2.actions? with
    | none => .damaged
    | some actions =>
      ofContents (contents.replay actions.flatten) ((commits.getLast?.map Prod.fst).getD version)

/-- The reading of a log with the given file in the place of the pointer, checkpoints and
commits. -/
def readParts (pointer : Option Content) (checkpoints commits : List (Nat × Content)) :
    LogReading :=
  if pointer.any fun content => !content.isPointer then .damaged
  else
    match checkpoints.getLast? with
    | some (version, .checkpoint snapshot) =>
      replayCommits snapshot.contents version (commits.filter fun commit => version < commit.1)
    | some _ => .damaged
    | none => if commits.isEmpty then .absent else replayCommits .empty 0 commits

/-- The reading of the files of a log. -/
def readFiles (files : List (String × Content)) : LogReading :=
  readParts (files.lookup pointerName) (numbered checkpointEnding files)
    (numbered commitEnding files)

/-- The reading of the log of the table at a place. -/
def read (tree : FileTree Content) (place : Location) : LogReading :=
  readFiles (tree.filesIn (directory place))

end Log

end LogTable
