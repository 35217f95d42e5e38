import LogTable.Table.Place

/-!
# Reading tables

`Table.readAll` gives the rows of all live data files, `Table.summary` counts them.
-/

namespace LogTable

/-- A table in numbers. -/
structure TableSummary where
  version : Nat
  /-- The number of live rows. -/
  rows : Nat
  /-- The number of live data files. -/
  files : Nat
  deriving DecidableEq, Repr

/-- The rows of the live data files of a snapshot, unless one of the files cannot be read. -/
def Snapshot.rows? (tree : FileTree Content) (place : Location) (snapshot : Snapshot) :
    Option (List Row) :=
  (snapshot.files.mapM (DataFile.rows? tree place)).map List.flatten

namespace Table

/-- The snapshot of a table with its rows. -/
def scan (table : Table) : Run (Snapshot × List Row) := do
  let place ← table.placeForReading
  let snapshot ← snapshotAt place
  match snapshot.rows? (← Run.tree) place with
  | some rows => return (snapshot, rows)
  | none => throw (.fault .scan)

/-- The live rows of a table. -/
def readAll (table : Table) : Run (List Row) := do
  return (← table.scan).2

/-- The numbers of a table. -/
def summary (table : Table) : Run TableSummary := do
  let (snapshot, rows) ← table.scan
  return { version := snapshot.version, rows := rows.length, files := snapshot.files.length }

end Table

end LogTable
