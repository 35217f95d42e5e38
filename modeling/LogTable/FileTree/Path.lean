import LogTable.FileTree
import LogTable.TableUri

/-!
# Paths

A path is read from a starting directory, its `home`, or from the top if it starts with a slash.
`FileTree.resolve` finds what stands at a path, `FileTree.createDirectories` adds the directories of
a path that are missing, `FileTree.write` puts a file there and `FileTree.removeDirectory` removes a
directory with all it holds.
-/

namespace LogTable.FileTree

variable {α : Type}

/-- The longest path, in bytes. -/
def pathLimit : Nat := 4095

/-- The names between the slashes of a path. -/
def pathNames (path : String) : List String :=
  (PathPart.segments path).map String.ofList

/-- Where a path starts. -/
def pathStart (home : Location) (path : String) : Location :=
  if path.toList.head? = some '/' then [] else home

/-- Follows names from a location.  Each name needs a directory in front of it; an empty name and a
dot stay there, and two dots go up. -/
def walk (tree : FileTree α) : Location → List String → Except PathFault Location
  | here, [] => if (tree.find? here).isSome then .ok here else .error .notFound
  | here, name :: rest =>
    match tree.find? here with
    | none => .error .notFound
    | some (.file _) => .error .notADirectory
    | some .directory =>
      if name = "" ∨ name = "." then walk tree here rest
      else if name = ".." then walk tree here.dropLast rest
      else if !fits name then .error .nameTooLong
      else walk tree (here ++ [name]) rest

/-- The location of what stands at a path. -/
def resolve (tree : FileTree α) (home : Location) (path : String) : Except PathFault Location :=
  if '\x00' ∈ path.toList then .error .containsNul
  else if path = "" then .error .notFound
  else if pathLimit < path.utf8ByteSize then .error .nameTooLong
  else tree.walk (pathStart home path) (pathNames path)

/-- Something stands at a path. -/
def existsAt (tree : FileTree α) (home : Location) (path : String) : Bool :=
  (tree.resolve home path).toBool

/-- The names of a path without the empty ones. -/
def fullNames (path : String) : List String :=
  (pathNames path).filter (· ≠ "")

/-- Adds the missing directories of a path.  A path that ends in a dot names a directory that has to
be there; only its parents are added. -/
def createDirectories (tree : FileTree α) (home : Location) (path : String) :
    Except PathFault Location × FileTree α :=
  match tree.resolve home path with
  | .ok location =>
    (if tree.isDirectory location then .ok location else .error .alreadyExists, tree)
  | .error .notFound =>
    let start := pathStart home path
    let names := (fullNames path).filter (· ≠ ".")
    if (fullNames path).getLast? = some "." then
      (.error .notFound, (tree.makeDirectories start names.dropLast).2)
    else tree.makeDirectories start names
  | .error fault => (.error fault, tree)

/-- Puts a file at a path whose directory is there. -/
def write (tree : FileTree α) (home : Location) (path : String) (content : α) :
    Except PathFault (FileTree α) := do
  if '\x00' ∈ path.toList then throw .containsNul
  if pathLimit < path.utf8ByteSize then throw .nameTooLong
  let directory ← tree.walk (pathStart home path) (pathNames path).dropLast
  match tree.find? directory, (pathNames path).getLast? with
  | some .directory, some name =>
    if name = "" ∨ name = "." ∨ name = ".." then throw .isADirectory
    else if !fits name then throw .nameTooLong
    else
      let location := directory ++ [name]
      if tree.isDirectory location then throw .isADirectory
      else return tree.put location (.file content)
  | _, _ => throw .notADirectory

/-- Removes the directory at a path: first all that it holds, then the directory itself.  A
directory that the path names by dots cannot be removed itself, so it is left empty. -/
def removeDirectory (tree : FileTree α) (home : Location) (path : String) :
    Except PathFault Unit × FileTree α :=
  match tree.resolve home path with
  | .error fault => (.error fault, tree)
  | .ok location =>
    if !tree.isDirectory location then (.error .notADirectory, tree)
    else
      let emptied := tree.removeBelow location
      match (fullNames path).getLast? with
      | none => (.error .invalidArgument, emptied)
      | some "." => (.error .invalidArgument, emptied)
      | some ".." =>
        match emptied.walk (pathStart home path) (fullNames path).dropLast with
        | .ok _ => (.error .directoryNotEmpty, emptied)
        | .error fault => (.error fault, emptied)
      | some _ => (.ok (), emptied.remove location)

end LogTable.FileTree
