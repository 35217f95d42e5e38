import LogTable.World

/-!
# Removing local tables

`StorageMode.resetLocal` removes the directory of a local table with all that it holds, so that the
next append starts at version zero.
-/

namespace LogTable.StorageMode

/-- Removes the directory at a path and says whether there was one.  Object stores stay as they
are. -/
def resetLocal (mode : StorageMode) (path : String) : Run Bool := do
  if !mode.isLocal then return false
  else
    let (outcome, tree) := (← Run.tree).removeDirectory (← Run.home) path
    Run.setTree tree
    match outcome with
    | .ok () =>
      Run.record (.tableRemoved path)
      return true
    | .error .notFound => return false
    | .error fault => throw (.fault (.files path fault))

end LogTable.StorageMode
