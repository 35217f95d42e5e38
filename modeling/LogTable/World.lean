import LogTable.FileTree.Path
import LogTable.Journal
import LogTable.Table.Content

/-!
# Runs

A `Run` works on a `World`: the files of a machine, the directory that relative paths start from,
and the journal.  It gives an answer or a failure, and keeps what it has done so far in either case.
-/

namespace LogTable

/-- What a run finds and leaves. -/
structure World where
  tree : FileTree Content
  /-- The directory that relative paths start from. -/
  home : Location
  /-- What has been recorded so far, in order. -/
  journal : List Event := []

/-- A computation on a world with an answer or a failure. -/
abbrev Run (α : Type) : Type := ExceptT Failure (StateM World) α

namespace Run

/-- The files as they are. -/
def tree : Run (FileTree Content) := do
  return (← get).tree

/-- The directory that relative paths start from. -/
def home : Run Location := do
  return (← get).home

/-- Replaces the files. -/
def setTree (tree : FileTree Content) : Run Unit :=
  modify fun world => { world with tree }

/-- Records an event. -/
def record (event : Event) : Run Unit :=
  modify fun world => { world with journal := world.journal ++ [event] }

/-- Takes the outcome of an operation on files, which leaves files whether it succeeds or not. -/
def ofOutcome {α ε : Type} (failure : ε → Failure) (outcome : Except ε α × FileTree Content) :
    Run α := do
  setTree outcome.2
  match outcome.1 with
  | .ok a => return a
  | .error e => throw (failure e)

/-- Takes an answer that may be a failure. -/
def ofExcept {α : Type} (answer : Except Failure α) : Run α :=
  match answer with
  | .ok a => return a
  | .error failure => throw failure

/-- Runs a computation from a world. -/
def start {α : Type} (run : Run α) (world : World) : Except Failure α × World :=
  (ExceptT.run run).run world

end Run

/-- A machine whose home directory is empty. -/
def World.fresh : World where
  tree := FileTree.empty.put ["work"] .directory
  home := ["work"]

end LogTable
