import LogTable.Table.Snapshot

/-!
# Contents of files

A file on the machine holds bytes from outside, the rows of a data file, or a part of the log of a
table: a commit, a checkpoint, or the pointer to the last checkpoint.
-/

namespace LogTable

/-- What a file holds. -/
inductive Content where
  | bytes (data : ByteArray)
  | rows (rows : List Row)
  | commit (actions : List Action)
  | checkpoint (snapshot : Snapshot)
  | pointer (version : Nat)

namespace Content

/-- The text of a file.  Of a commit or a pointer, which is written as an object, only the opening
brace is kept; data files and checkpoints hold no text. -/
def text? : Content → Option String
  | bytes data => String.fromUTF8? data
  | commit _ => some "\x7b"
  | pointer _ => some "\x7b"
  | rows _ => none
  | checkpoint _ => none

/-- The file is a pointer to a checkpoint. -/
def isPointer : Content → Bool
  | pointer _ => true
  | _ => false

/-- A list of characters consists of empty objects with blanks around and inside them; `inside` says
that the last object is still open. -/
def isEmptyObjects (inside : Bool) : List Char → Bool
  | [] => !inside
  | c :: rest =>
    if c = ' ' ∨ c = '\t' ∨ c = '\n' ∨ c = '\r' then isEmptyObjects inside rest
    else if c = '\x7b' ∧ inside = false then isEmptyObjects true rest
    else if c = '\x7d' ∧ inside = true then isEmptyObjects false rest
    else false

/-- The actions of a commit.  A file from outside is a commit without actions if it consists of
empty objects, and none otherwise. -/
def actions? : Content → Option (List Action)
  | commit actions => some actions
  | bytes data =>
    match String.fromUTF8? data with
    | some s => if isEmptyObjects false s.toList then some [] else none
    | none => none
  | _ => none

/-- The rows of a data file. -/
def rows? : Content → Option (List Row)
  | rows list => some list
  | _ => none

end Content

/-- The rows of the data file that a table at a place has, unless it cannot be read. -/
def DataFile.rows? (tree : FileTree Content) (place : Location) (file : DataFile) :
    Option (List Row) :=
  (tree.content? (place ++ file.path)).bind Content.rows?

end LogTable
