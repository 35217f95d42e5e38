import LogTable.Predicate.Engine
import LogTable.Table.Commit

/-!
# Deleting rows

`Table.delete` removes the rows of which a predicate is true, by the judgement of an engine of
predicates.  A predicate on partition columns alone drops whole files without reading them, and no
rows are counted then.  Any other predicate is put to every row (`Deletion.ofRows?`); the files with
a row of which it is true are removed, and their other rows are written anew.
-/

namespace LogTable

open Predicate

/-- What a deletion changes. -/
structure Deletion where
  /-- The files that are removed. -/
  removed : List DataFile
  /-- The rows of these files that stay. -/
  kept : List Row
  /-- The number of rows counted as deleted. -/
  rowsDeleted : Nat

/-- What a deletion has done. -/
structure DeleteOutcome where
  version : Nat
  rowsDeleted : Nat
  deriving DecidableEq, Repr

namespace Deletion

/-- The values of the partition columns of a file. -/
def fileValues (file : DataFile) (column : Column) : Option Cell :=
  file.partition.lookup column

variable [Engine]

/-- The predicate mentions partition columns only. -/
def isOnPartitions (snapshot : Snapshot) (condition : Engine.Condition) : Bool :=
  (Engine.columns condition).all (· ∈ snapshot.partitionBy)

/-- The deletion of the files on whose partition values the predicate is true. -/
def ofPartitions? (snapshot : Snapshot) (condition : Engine.Condition) : Option Deletion :=
  if Engine.isRefused true condition then none
  else
    (Engine.verdicts? condition (snapshot.files.map fileValues)).map fun verdicts =>
      { removed := ((snapshot.files.zip verdicts).filter Prod.snd).map Prod.fst
        kept := []
        rowsDeleted := 0 }

/-- The rows of a file, each with whether the predicate is true of it, unless the bounds of the file
show that it is true of none; then nothing is read. -/
def verdicts? (tree : FileTree Content) (place : Location) (condition : Engine.Condition)
    (file : DataFile) : Option (List (Row × Bool)) :=
  if Engine.isExcluded condition file.low file.high then some []
  else
    (file.rows? tree place).bind fun rows =>
      (Engine.verdicts? condition (rows.map Row.values)).map rows.zip

/-- The deletion of the rows of which the predicate is true. -/
def ofRows? (tree : FileTree Content) (place : Location) (snapshot : Snapshot)
    (condition : Engine.Condition) : Option Deletion :=
  if Engine.isRefused false condition then none
  else
    let read := snapshot.files.mapM fun file =>
      (verdicts? tree place condition file).map fun verdicts => (file, verdicts)
    read.map fun read =>
      let hit := read.filter fun entry => entry.2.any Prod.snd
      let verdicts := hit.flatMap Prod.snd
      { removed := hit.map Prod.fst
        kept := (verdicts.filter fun verdict => !verdict.2).map Prod.fst
        rowsDeleted := (verdicts.filter Prod.snd).length }

/-- The deletion that a predicate asks for. -/
def of? (tree : FileTree Content) (place : Location) (snapshot : Snapshot)
    (condition : Engine.Condition) : Option Deletion :=
  if isOnPartitions snapshot condition then ofPartitions? snapshot condition
  else ofRows? tree place snapshot condition

end Deletion

namespace Table

/-- Carries out a deletion at a place.  If no file is removed, nothing is committed. -/
def carryOut (place : Location) (snapshot : Snapshot) (deletion : Deletion) :
    Run DeleteOutcome := do
  if deletion.removed = [] then return ⟨snapshot.version, deletion.rowsDeleted⟩
  else
    let version := snapshot.version + 1
    let files ← writeFiles place version .deleting
      (Partition.groups snapshot.partitionBy.eraseDups deletion.kept)
    commit place version .deleting
      (files.map .add ++ deletion.removed.map fun file => .remove file.path)
    return ⟨version, deletion.rowsDeleted⟩

/-- Deletes the rows of which a predicate is true.  A place without a table ends the run. -/
def delete [Engine] (table : Table) (predicate : String) : Run DeleteOutcome := do
  let place ← table.placeForWriting
  let tree ← Run.tree
  let snapshot ← match Log.read tree place with
    | .damaged => throw (.table .opening)
    | .absent => throw (.abort .internal)
    | .table snapshot => pure snapshot
  let deletion ← match Engine.read? predicate with
    | none => throw (.table .deleting)
    | some condition =>
      match Deletion.of? tree place snapshot condition with
      | none => throw (.table .deleting)
      | some deletion => pure deletion
  let outcome ← carryOut place snapshot deletion
  Run.record (.rowsDeleted table.uri predicate outcome.version outcome.rowsDeleted)
  return outcome

end Table

end LogTable
