import LogTable.Table.Log
import LogTable.Text.Percent
import LogTable.World

/-!
# Places of tables

A `Table` is known by its address.  The address of a local table is the path of a directory, its
place; writers make the place if it is missing (`Table.placeForWriting`), readers need it to be
there (`Table.placeForReading`).  An object store is out of reach, so its tables cannot be opened.
-/

namespace LogTable

/-- A table, known by its address. -/
structure Table where
  uri : String
  deriving DecidableEq, Repr

/-- What an address means. -/
inductive Address where
  | directory (path : String)
  /-- A store that cannot be opened. -/
  | store
  /-- No kind of store has such addresses. -/
  | unknown
  deriving DecidableEq, Repr

namespace Address

/-- The kinds of stores that addresses name. -/
def storeKinds : List String := ["s3", "s3a", "file", "memory"]

/-- A character of the name of a kind of stores. -/
def isKindCharacter (c : Char) : Bool :=
  c.isAlphanum || c == '+' || c == '-' || c == '.'

/-- The kind of stores that an address names: a word in front of a colon. -/
def kind? (uri : String) : Option String :=
  let cs := (uri.toList.filter fun c => c ≠ '\t' ∧ c ≠ '\n' ∧ c ≠ '\r').dropWhile (·.toNat ≤ 32)
  let word := cs.takeWhile isKindCharacter
  match word, cs.drop word.length with
  | first :: _, ':' :: _ =>
    if first.isAlpha then some (String.ofList (word.map Char.toLower)) else none
  | _, _ => none

/-- The meaning of an address.  A single letter in front of a colon belongs to a path. -/
def ofUri (uri : String) : Address :=
  match kind? uri with
  | none => directory uri
  | some kind =>
    if kind ∈ storeKinds then store else if kind.length = 1 then directory uri else unknown

end Address

namespace Table

/-- The characters that stand for themselves in an address. -/
def isAddressCharacter (c : Char) : Bool :=
  32 < c.toNat && c.toNat < 127 &&
    c ∉ ['\x22', '#', '<', '>', '?', '\\', '\x60', '\x7b', '\x7d', '%']

/-- The location whose names are the ones of `place` as they are written in an address. -/
def twin (place : Location) : Location :=
  place.map (Text.percentEncoded isAddressCharacter)

/-- Opens the store at a place.  If an address writes the place otherwise, the directory that it
would be if taken literally comes into being as well. -/
def openStore (place : Location) : Run Unit := do
  if twin place = place then return ()
  let _ ← Run.ofOutcome (fun _ => .table .opening)
    ((← Run.tree).makeDirectories [] (twin place))

/-- The place of a table for writing, which comes into being if it is missing.  An address that is
none, or a place that cannot be made, ends the run. -/
def placeForWriting (table : Table) : Run Location :=
  match Address.ofUri table.uri with
  | .store => throw (.table .opening)
  | .unknown => throw (.abort .internal)
  | .directory path => do
    let place ← Run.ofOutcome (fun _ => .abort .internal)
      ((← Run.tree).createDirectories (← Run.home) path)
    openStore place
    return place

/-- The place of a table for reading, which has to be a directory. -/
def placeForReading (table : Table) : Run Location :=
  match Address.ofUri table.uri with
  | .directory path => do
    let tree ← Run.tree
    match tree.resolve (← Run.home) path with
    | .error _ => throw (.table .opening)
    | .ok place =>
      if !tree.isDirectory place then throw (.table .opening)
      openStore place
      return place
  | _ => throw (.table .opening)

/-- The snapshot at a place, which has to hold a readable table. -/
def snapshotAt (place : Location) : Run Snapshot := do
  match Log.read (← Run.tree) place with
  | .table snapshot => return snapshot
  | _ => throw (.table .opening)

end Table

end LogTable
