import LogTable.Proofs.Table.Place
import LogTable.Table.Append
import LogTable.Table.Checkpoint
import LogTable.Table.Delete
import LogTable.Table.Scan

/-!
# Failures of the operations of a table

An operation on a table fails in the ways of the table engine only (`Failure.IsOfTable`), whatever
it finds: it reports no fault of settings and none of the removal of a directory.
-/

namespace LogTable

open Predicate

/-- The failure is one of the table engine, or an abort. -/
def Failure.IsOfTable : Failure → Prop
  | .abort _ => True
  | .fault (.table _) => True
  | .fault .checkpoint => True
  | .fault .scan => True
  | .fault (.settings _) => False
  | .fault (.files _ _) => False

namespace Table

open Run

theorem placeForWriting_failsOnly (table : Table) :
    table.placeForWriting.FailsOnly Failure.IsOfTable := by
  unfold placeForWriting
  split
  · exact failsOnly_throw trivial
  · exact failsOnly_throw trivial
  · exact failsOnly_tree.bind fun _ => failsOnly_home.bind fun _ =>
      (failsOnly_ofOutcome (fun _ => trivial) _).bind fun place =>
        (openStore_failsOnly trivial place).bind fun _ => failsOnly_pure _

theorem writeFiles_failsOnly (place : Location) (version : Nat) (activity : Activity)
    (groups : List (PartitionValues × List Row)) :
    (writeFiles place version activity groups).FailsOnly Failure.IsOfTable := by
  induction groups with
  | nil => exact failsOnly_pure []
  | cons group groups ih =>
    obtain ⟨values, _ | ⟨row, rows⟩⟩ := group
    · exact ih
    · have hwrite : (writeFile place version activity values row rows).FailsOnly
          Failure.IsOfTable :=
        failsOnly_tree.bind fun _ => (failsOnly_ofOutcome (fun _ => trivial) _).bind fun _ =>
          failsOnly_tree.bind fun _ => (failsOnly_setTree _).bind fun _ => failsOnly_pure _
      exact hwrite.bind fun _ => ih.bind fun _ => failsOnly_pure _

theorem commit_failsOnly (place : Location) (version : Nat) (activity : Activity)
    (actions : List Action) :
    (commit place version activity actions).FailsOnly Failure.IsOfTable := by
  have hput : (do
      let _ ← ofOutcome (fun _ => .table activity)
        ((← Run.tree).makeDirectories place [Log.directoryName])
      let tree ← Run.tree
      if (tree.find? (Log.commitPath place version)).isSome then throw (.table activity)
      setTree (tree.put (Log.commitPath place version) (.file (.commit actions))) :
      Run Unit).FailsOnly Failure.IsOfTable := by
    refine failsOnly_tree.bind fun _ => (failsOnly_ofOutcome (fun _ => trivial) _).bind fun _ =>
      failsOnly_tree.bind fun _ => ?_
    split_ifs
    · exact failsOnly_throw_bind trivial _
    · exact failsOnly_setTree _
  unfold commit
  split_ifs
  · exact failsOnly_throw_bind trivial _
  · exact hput

theorem append_failsOnly (table : Table) (rows : List Row) (partitionBy : List String) :
    (table.append rows partitionBy).FailsOnly Failure.IsOfTable := by
  have hversion : ∀ place version actions columns,
      (appendVersion place version actions columns rows).FailsOnly Failure.IsOfTable := by
    intro place version actions columns
    refine (writeFiles_failsOnly _ _ _ _).bind fun files =>
      (commit_failsOnly _ _ _ _).bind fun _ => ?_
    split_ifs
    · exact failsOnly_throw trivial
    · exact failsOnly_pure ()
  have hfinish : ∀ version : Nat, (do
      record (.batchAppended table.uri version rows.length)
      return version : Run Nat).FailsOnly Failure.IsOfTable :=
    fun _ => (failsOnly_record _).bind fun _ => failsOnly_pure _
  refine (placeForWriting_failsOnly table).bind fun place => failsOnly_tree.bind fun tree => ?_
  cases Log.read tree place with
  | damaged => exact failsOnly_throw_bind trivial _
  | absent =>
    cases partitionColumns? partitionBy with
    | none => exact failsOnly_throw_bind trivial _
    | some columns =>
      exact (hversion _ _ _ _).bind fun _ => (failsOnly_pure 0).bind hfinish
  | table snapshot =>
    simp only
    split_ifs
    · exact (hversion _ _ _ _).bind fun _ => (failsOnly_pure _).bind hfinish
    · exact failsOnly_throw_bind trivial _

theorem carryOut_failsOnly (place : Location) (snapshot : Snapshot) (deletion : Deletion) :
    (carryOut place snapshot deletion).FailsOnly Failure.IsOfTable := by
  unfold carryOut
  split_ifs
  · exact failsOnly_pure _
  · exact (writeFiles_failsOnly _ _ _ _).bind fun _ =>
      (commit_failsOnly _ _ _ _).bind fun _ => failsOnly_pure _

theorem delete_failsOnly [Engine] (table : Table) (predicate : String) :
    (table.delete predicate).FailsOnly Failure.IsOfTable := by
  refine (placeForWriting_failsOnly table).bind fun place => failsOnly_tree.bind fun tree => ?_
  cases Log.read tree place with
  | damaged => exact failsOnly_throw_bind trivial _
  | absent => exact failsOnly_throw_bind trivial _
  | table snapshot =>
    simp only [pure_bind]
    split
    · exact failsOnly_throw_bind trivial _
    · split
      · exact failsOnly_throw_bind trivial _
      · exact (carryOut_failsOnly _ _ _).bind fun _ =>
          (failsOnly_record _).bind fun _ => failsOnly_pure _

theorem replaceFile_failsOnly (path : Location) (content : Content) :
    (replaceFile path content).FailsOnly Failure.IsOfTable := by
  refine failsOnly_tree.bind fun tree => ?_
  split_ifs
  · exact failsOnly_throw_bind trivial _
  · exact failsOnly_setTree _

theorem placeForReading_failsOnly_isOfTable (table : Table) :
    table.placeForReading.FailsOnly Failure.IsOfTable := by
  intro world failure after hrun
  rw [placeForReading_failsOnly table world failure after hrun]
  trivial

theorem checkpoint_failsOnly (table : Table) : table.checkpoint.FailsOnly Failure.IsOfTable :=
  (placeForReading_failsOnly_isOfTable table).bind fun place =>
    (snapshotAt_failsOnly trivial place).bind fun _ =>
    (replaceFile_failsOnly _ _).bind fun _ => (replaceFile_failsOnly _ _).bind fun _ =>
    (failsOnly_record _).bind fun _ => failsOnly_pure _

theorem scan_failsOnly (table : Table) : table.scan.FailsOnly Failure.IsOfTable := by
  refine (placeForReading_failsOnly_isOfTable table).bind fun place =>
    (snapshotAt_failsOnly trivial place).bind fun snapshot => failsOnly_tree.bind fun tree => ?_
  split
  · exact failsOnly_pure _
  · exact failsOnly_throw trivial

end Table

end LogTable
