import LogTable.Table.Commit

/-!
# Appending rows

`Table.append` commits rows as the next version of a table.  The first append makes the table and
settles its partition columns; a later one may repeat them or leave them out.
-/

namespace LogTable.Table

/-- The partition columns that a list of names gives a new table: each name is a column, and at
least one column is left. -/
def partitionColumns? (names : List String) : Option (List Column) := do
  let columns ← names.mapM Column.ofName?
  if Column.all.all (· ∈ columns) then none else some columns

/-- A table with the given partition columns takes an append that names these.  A table that names a
column twice takes none. -/
def admits (columns : List Column) (names : List String) : Bool :=
  columns.Nodup && (names = [] || names = columns.map Column.name)

/-- Writes rows as a version with the given further actions.  A text that a partition column cannot
hold shows only after the commit. -/
def appendVersion (place : Location) (version : Nat) (actions : List Action)
    (columns : List Column) (rows : List Row) : Run Unit := do
  let files ← writeFiles place version .appending (Partition.groups columns.eraseDups rows)
  commit place version .appending (actions ++ files.map .add)
  if files.any Log.hasLostValue then throw (.table .appending)

/-- Appends rows and gives the version of the commit. -/
def append (table : Table) (rows : List Row) (partitionBy : List String) : Run Nat := do
  let place ← table.placeForWriting
  let version ← match Log.read (← Run.tree) place with
    | .damaged => throw (.table .opening)
    | .absent =>
      match partitionColumns? partitionBy with
      | none => throw (.table .appending)
      | some columns => do
        appendVersion place 0 [.create columns] columns rows
        pure 0
    | .table snapshot =>
      if admits snapshot.partitionBy partitionBy then do
        appendVersion place (snapshot.version + 1) [] snapshot.partitionBy rows
        pure (snapshot.version + 1)
      else throw (.table .appending)
  Run.record (.batchAppended table.uri version rows.length)
  return version

end LogTable.Table
