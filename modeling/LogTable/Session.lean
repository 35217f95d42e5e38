import LogTable.Scenario

/-!
# Sessions

A session is a sequence of steps on tables.  A `Step` names what is done to one table, and
`Step.run` does it and gives the `Answer`.
-/

namespace LogTable

open Predicate

/-- A step on a table. -/
inductive Step where
  /-- Generate a batch of `count` rows with ids from `start` on, and append it. -/
  | append (start : Int64) (count : Nat) (time : Instant) (message : String)
      (partitionBy : List String)
  | delete (predicate : String)
  | checkpoint
  | summary
  | read
  | reset
  deriving DecidableEq, Repr

/-- What a step gives. -/
inductive Answer where
  | version (version : Nat)
  | deleted (outcome : DeleteOutcome)
  | summary (summary : TableSummary)
  | rows (rows : List Row)
  | removed (removed : Bool)
  deriving DecidableEq, Repr

namespace Step

variable [Engine]

/-- What a step does to the table at an address. -/
def runAt (step : Step) (storage : StorageMode) (uri : String) : Run Answer := do
  let table : Table := ⟨uri⟩
  match step with
  | append start count time message partitionBy =>
    let rows ← Run.ofExcept (Batch.generate start count time message)
    return .version (← table.append rows partitionBy)
  | delete predicate => return .deleted (← table.delete predicate)
  | checkpoint => return .version (← table.checkpoint)
  | summary => return .summary (← table.summary)
  | read => return .rows (← table.readAll)
  | reset => return .removed (← storage.resetLocal uri)

/-- A step on the table of the given name.  A name without an address fails before all else. -/
def run (step : Step) (storage : StorageMode) (name root : String) : Run Answer := do
  let uri ← Run.ofExcept ((storage.tableUri name root).mapError Failure.settings)
  step.runAt storage uri

end Step

end LogTable
