import LogTable.Table.Partition
import LogTable.Table.Place

/-!
# Data files and commits

A version is written in two steps: first its data files (`Table.writeFiles`), one for each group of
rows, under names that no file has had before, and then its commit (`Table.commit`).
-/

namespace LogTable.Table

/-- The name of a data file: the version that adds it, and a number that tells files of one version
and one directory apart. -/
def dataName (version serial : Nat) : String :=
  s!"part-{version}-{serial}.parquet"

/-- The name is one of a data file. -/
def isDataName (name : String) : Bool :=
  name.startsWith "part-" && name.endsWith ".parquet"

/-- The first number from `n` on that is not taken; at most `fuel` numbers are. -/
def firstFree (taken : Nat → Bool) : (fuel n : Nat) → Nat
  | 0, n => n
  | fuel + 1, n => if taken n then firstFree taken fuel (n + 1) else n

/-- The name for a new data file of a version in a directory. -/
def freshName (tree : FileTree Content) (directory : Location) (version : Nat) : String :=
  let taken n := (tree.find? (directory ++ [dataName version n])).isSome
  dataName version (firstFree taken tree.entries.length 0)

/-- Writes a data file with a group of rows, in the directory of its values. -/
def writeFile (place : Location) (version : Nat) (activity : Activity) (values : PartitionValues)
    (row : Row) (rows : List Row) : Run DataFile := do
  let directory ← Run.ofOutcome (fun _ => .table activity)
    ((← Run.tree).makeDirectories place (Partition.directory values))
  let tree ← Run.tree
  let name := freshName tree directory version
  Run.setTree (tree.put (directory ++ [name]) (.file (.rows (row :: rows))))
  return .ofRows (Partition.directory values ++ [name]) values row rows

/-- Writes a data file for each group of rows; a group without rows needs none. -/
def writeFiles (place : Location) (version : Nat) (activity : Activity) :
    List (PartitionValues × List Row) → Run (List DataFile)
  | [] => return []
  | (_, []) :: groups => writeFiles place version activity groups
  | (values, row :: rows) :: groups => do
    let file ← writeFile place version activity values row rows
    return file :: (← writeFiles place version activity groups)

/-- The number of versions: they are 64-bit signed integers from zero on. -/
def versionLimit : Nat := Int64.size / 2

/-- Writes the commit of a version.  Nothing may stand in its place, and a version beyond the limit
ends the run.  No version is checkpointed by itself, whatever its number. -/
def commit (place : Location) (version : Nat) (activity : Activity) (actions : List Action) :
    Run Unit := do
  if versionLimit ≤ version then throw (.abort .addOverflow)
  let _ ← Run.ofOutcome (fun _ => .table activity)
    ((← Run.tree).makeDirectories place [Log.directoryName])
  let tree ← Run.tree
  if (tree.find? (Log.commitPath place version)).isSome then throw (.table activity)
  Run.setTree (tree.put (Log.commitPath place version) (.file (.commit actions)))

end LogTable.Table
