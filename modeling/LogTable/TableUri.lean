import LogTable.Failure
import LogTable.Storage

/-!
# Table names and addresses

A table is named by one plain path segment.  `PathPart.ofText` reads a path into its parts,
`plainSegment?` is the name of a path that consists of a single plain part, and
`StorageMode.tableUri` is the address of a table: a directory below the local root, or a key of the
bucket.  The slashes around a name do not count, so no name leads outside the root.
-/

namespace LogTable

/-- A part of a path. -/
inductive PathPart where
  /-- The top of the file system, in front of an absolute path. -/
  | top
  /-- A `.` in front of a relative path. -/
  | here
  /-- A `..`. -/
  | up
  | plain (name : String)
  deriving DecidableEq, Repr

namespace PathPart

/-- The part that a segment between slashes stands for.  Empty segments and dots stand for none. -/
def ofSegment? (segment : List Char) : Option PathPart :=
  if segment = [] ∨ segment = ['.'] then none
  else if segment = ['.', '.'] then some up
  else some (plain (String.ofList segment))

/-- The segments of a path: the characters between its slashes. -/
def segments (path : String) : List (List Char) :=
  path.toList.splitOn '/'

/-- The parts of a path.  A dot counts only in front of a relative path. -/
def ofText (path : String) : List PathPart :=
  let rest := (segments path).filterMap ofSegment?
  match segments path with
  | ['.'] :: _ => here :: rest
  | [] :: _ :: _ => top :: rest
  | _ => rest

end PathPart

/-- The name of a path that consists of a single plain part. -/
def plainSegment? (path : String) : Option String :=
  match PathPart.ofText path with
  | [.plain name] => some name
  | _ => none

/-- A text without the slashes at its ends. -/
def trimSlashes (text : String) : String :=
  let front := text.toList.dropWhile (· == '/')
  String.ofList (front.reverse.dropWhile (· == '/')).reverse

/-- The path of `name` below `root`.  The empty root is the working directory, and a name that
starts with a slash leaves the root behind. -/
def joinPath (root name : String) : String :=
  if name.toList.head? = some '/' then name
  else if root = "" then name
  else if root.toList.getLast? = some '/' then root ++ name
  else root ++ "/" ++ name

namespace StorageMode

/-- The address of a table.  The name is looked at before the bucket. -/
def tableUri (mode : StorageMode) (name root : String) : Except SettingsFault String :=
  let name := trimSlashes name
  if name = "" then .error .emptyTableName
  else if (plainSegment? name).isNone then .error (.notOneSegment name)
  else match mode with
    | localFiles => .ok (joinPath root name ++ "/")
    | objectStore store =>
      if store.bucket = "" then .error .bucketMissing
      else .ok ("s3://" ++ store.bucket ++ "/" ++ name ++ "/")

end StorageMode

end LogTable
