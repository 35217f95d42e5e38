import LogTable.Config.Document

/-!
# Settings of a configuration file

`Settings` are the settings that a configuration file can make; `Settings.ofDocument` takes them
from a document.  Every key has to be one of `Settings.keys`, with an item of the kind that belongs
to it.
-/

namespace LogTable

/-- The settings of a configuration file; a missing one is left open. -/
structure Settings where
  table : Option String := none
  localRoot : Option String := none
  batches : Option Nat := none
  rows : Option Nat := none
  message : Option String := none
  delete : Option Bool := none
  deletePredicate : Option String := none
  checkpoint : Option Bool := none
  partitionBy : List String := []
  reset : Option Bool := none
  deriving DecidableEq, Repr

/-- Why a document makes no settings. -/
inductive ShapeFault where
  | unknownKey (key : String)
  /-- The item behind a key is not of the kind that belongs to it. -/
  | wrongItem (key : String)
  deriving DecidableEq, Repr

namespace Settings

/-- The keys of a configuration file. -/
def keys : List String :=
  ["table", "local_root", "batches", "rows", "message", "delete", "delete_predicate", "checkpoint",
    "partition_by", "reset"]

/-- What a document has behind a key, read as an item of one kind. -/
def field {α : Type} (document : Document) (read? : Item → Option α) (key : String) :
    Except ShapeFault (Option α) :=
  match document.lookup key with
  | none => .ok none
  | some item =>
    match read? item with
    | some a => .ok (some a)
    | none => .error (.wrongItem key)

/-- The settings that a document makes. -/
def ofDocument (document : Document) : Except ShapeFault Settings := do
  match (document.map Prod.fst).find? (· ∉ keys) with
  | some key => throw (.unknownKey key)
  | none =>
    return {
      table := ← field document Item.text? "table"
      localRoot := ← field document Item.text? "local_root"
      batches := ← field document Item.count? "batches"
      rows := ← field document Item.count? "rows"
      message := ← field document Item.text? "message"
      delete := ← field document Item.boolean? "delete"
      deletePredicate := ← field document Item.text? "delete_predicate"
      checkpoint := ← field document Item.boolean? "checkpoint"
      partitionBy := (← field document Item.texts? "partition_by").getD []
      reset := ← field document Item.boolean? "reset" }

end Settings

end LogTable
