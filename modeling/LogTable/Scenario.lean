import LogTable.Batch
import LogTable.Reset
import LogTable.Table.Append
import LogTable.Table.Checkpoint
import LogTable.Table.Delete
import LogTable.Table.Scan

/-!
# Scenarios

A `Scenario` is a whole run on one table: remove the table, append the batches of a plan, delete the
rows of which a predicate is true, write a checkpoint and count what is left.  `Scenario.run`
carries it out and gives a `ScenarioReport`.
-/

namespace LogTable

open Predicate

/-- What a run is to do. -/
structure Scenario where
  table : String
  /-- The directory of local tables. -/
  localRoot : String
  plan : BatchPlan
  message : String
  /-- The rows to delete, if any. -/
  deletePredicate : Option String
  checkpoint : Bool
  partitionBy : List String
  /-- An existing local table is removed first. -/
  reset : Bool
  deriving DecidableEq, Repr

/-- What a run has done. -/
structure ScenarioReport where
  uri : String
  /-- The version of each append, in order. -/
  appendVersions : List Nat
  rowsDeleted : Nat
  checkpointVersion : Option Nat
  summary : TableSummary
  deriving DecidableEq, Repr

/-- The reading of the clock when batch `b` is made. -/
abbrev Clock : Type := Nat → Instant

namespace Scenario

/-- The predicate of a run that is given no other. -/
def defaultPredicate : String := "id = 1"

/-- The scenario of a run that is told nothing. -/
def standard : Scenario where
  table := "delta_table"
  localRoot := "."
  plan := .standard
  message := Batch.defaultMessage
  deletePredicate := some defaultPredicate
  checkpoint := true
  partitionBy := []
  reset := true

/-- Appends the batches with the given first ids, numbered from `b` on, and gives their versions. -/
def appendBatches (scenario : Scenario) (table : Table) (clock : Clock) :
    (b : Nat) → List Int64 → Run (List Nat)
  | _, [] => return []
  | b, start :: starts => do
    let rows ← Run.ofExcept
      (Batch.generate start scenario.plan.rowsPerBatch.toNat (clock b) scenario.message)
    let version ← table.append rows scenario.partitionBy
    return version :: (← appendBatches scenario table clock (b + 1) starts)

/-- Removes the table, if the scenario asks for that. -/
def removeTable (scenario : Scenario) (storage : StorageMode) (uri : String) : Run Unit :=
  if scenario.reset then do
    let _ ← storage.resetLocal uri
  else return ()

/-- Deletes the rows that the scenario names, if any, and gives their number. -/
def deleteRows [Engine] (scenario : Scenario) (table : Table) : Run Nat :=
  match scenario.deletePredicate with
  | some predicate => do return (← table.delete predicate).rowsDeleted
  | none => return 0

/-- Writes a checkpoint, if the scenario asks for that. -/
def writeCheckpoint (scenario : Scenario) (table : Table) : Run (Option Nat) :=
  if scenario.checkpoint then do return some (← table.checkpoint) else return none

/-- Carries out a scenario. -/
def run [Engine] (scenario : Scenario) (storage : StorageMode) (clock : Clock) :
    Run ScenarioReport := do
  let uri ← Run.ofExcept
    ((storage.tableUri scenario.table scenario.localRoot).mapError Failure.settings)
  Run.record (.storageSelected uri storage.redactedOptions)
  scenario.removeTable storage uri
  let table : Table := ⟨uri⟩
  let starts ← Run.ofExcept (scenario.plan.starts.mapError Failure.abort)
  let appendVersions ← scenario.appendBatches table clock 0 starts
  let rowsDeleted ← scenario.deleteRows table
  let checkpointVersion ← scenario.writeCheckpoint table
  let summary ← table.summary
  let rowsWritten ← Run.ofExcept (scenario.plan.totalRows.mapError Failure.abort)
  Run.record (.tableSummary uri summary.version rowsWritten summary.rows summary.files)
  return { uri, appendVersions, rowsDeleted, checkpointVersion, summary }

end Scenario

end LogTable
