import LogTable.FileTree
import LogTable.Row

/-!
# Commits and snapshots

A table is a sequence of commits, each a list of actions.  Replaying the actions in order
(`Contents.replay`) gives the contents of the table: its partition columns and its live data files.
A `Snapshot` is the contents together with the version of the last commit.
-/

namespace LogTable

/-- A data file, as the log describes it. -/
structure DataFile where
  /-- Where the file lies below the directory of the table. -/
  path : Location
  /-- The value that all rows of the file have in each partition column. -/
  partition : List (Column × Cell)
  /-- The lowest value of each column. -/
  low : Row
  /-- The highest value of each column. -/
  high : Row
  deriving DecidableEq, Repr

/-- One change that a commit makes. -/
inductive Action where
  /-- The table comes into being, with its partition columns. -/
  | create (partitionBy : List Column)
  | add (file : DataFile)
  /-- The data file at a path is no longer live. -/
  | remove (path : Location)
  deriving DecidableEq, Repr

/-- What the actions of a table amount to. -/
structure Contents where
  /-- The partition columns, once the table has come into being. -/
  partitionBy : Option (List Column)
  /-- The live data files. -/
  files : List DataFile
  deriving DecidableEq, Repr

/-- A table at a version. -/
structure Snapshot where
  version : Nat
  partitionBy : List Column
  files : List DataFile
  deriving DecidableEq, Repr

namespace Contents

/-- The contents before the first action. -/
def empty : Contents := ⟨none, []⟩

/-- The contents after an action. -/
def apply (contents : Contents) : Action → Contents
  | .create partitionBy => { contents with partitionBy := some partitionBy }
  | .add file => { contents with files := contents.files ++ [file] }
  | .remove path => { contents with files := contents.files.filter fun file => file.path ≠ path }

/-- The contents after a list of actions. -/
def replay (contents : Contents) (actions : List Action) : Contents :=
  actions.foldl apply contents

@[simp] theorem replay_nil (contents : Contents) : contents.replay [] = contents := rfl

@[simp] theorem replay_cons (contents : Contents) (action : Action) (actions : List Action) :
    contents.replay (action :: actions) = (contents.apply action).replay actions := rfl

theorem replay_append (contents : Contents) (first second : List Action) :
    contents.replay (first ++ second) = (contents.replay first).replay second := by
  simp [replay, List.foldl_append]

/-- Added files come last, in order. -/
theorem replay_map_add (contents : Contents) (files : List DataFile) :
    contents.replay (files.map .add) = { contents with files := contents.files ++ files } := by
  induction files generalizing contents with
  | nil => simp
  | cons file files ih => simp [ih, apply]

/-- Removed files are gone, and the others stay in order. -/
theorem replay_map_remove (contents : Contents) (paths : List Location) :
    contents.replay (paths.map .remove) =
      { contents with files := contents.files.filter fun file => file.path ∉ paths } := by
  induction paths generalizing contents with
  | nil => simp [List.filter_eq_self.2]
  | cons path paths ih =>
    simp only [List.map_cons, replay_cons, ih, apply, List.filter_filter]
    congr 1
    apply List.filter_congr
    intro file _
    simp [Bool.and_comm]

end Contents

/-- The contents of a snapshot. -/
def Snapshot.contents (snapshot : Snapshot) : Contents where
  partitionBy := some snapshot.partitionBy
  files := snapshot.files

end LogTable
