import LogTable.Table.Place

/-!
# Checkpoints

`Table.checkpoint` writes the snapshot of a table next to its commits, and a pointer to it.  Readers
start from the newest checkpoint; nothing is committed.
-/

namespace LogTable.Table

/-- Puts a file of the log in place of an older one.  A directory cannot be replaced. -/
def replaceFile (path : Location) (content : Content) : Run Unit := do
  let tree ← Run.tree
  if tree.isDirectory path then throw (.fault .checkpoint)
  Run.setTree (tree.put path (.file content))

/-- Writes a checkpoint of the current version and gives that version. -/
def checkpoint (table : Table) : Run Nat := do
  let place ← table.placeForReading
  let snapshot ← snapshotAt place
  replaceFile (Log.checkpointPath place snapshot.version) (.checkpoint snapshot)
  replaceFile (Log.pointerPath place) (.pointer snapshot.version)
  Run.record (.checkpointCreated table.uri snapshot.version)
  return snapshot.version

end LogTable.Table
