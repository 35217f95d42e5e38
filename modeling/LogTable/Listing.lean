import LogTable.Table.Commit

/-!
# Listings

`FileTree.listing` shows what lies below a directory, with the data files of each directory counted
together, and `FileTree.dropData` takes data files away.
-/

namespace LogTable.FileTree

/-- An entry of a listing. -/
inductive Listed where
  | directory
  | file
  /-- The data files of a directory, and how many they are. -/
  | dataFiles (count : Nat)
  deriving DecidableEq, Repr

/-- The location is one of a data file. -/
def isDataLocation (location : Location) : Bool :=
  location.getLast?.any Table.isDataName

/-- A location as the path from where a listing starts. -/
def pathText (location : Location) : String :=
  String.intercalate "/" location

/-- The pattern that stands for the data files of a directory. -/
def dataPattern : String := "part-*.parquet"

/-- What lies below the directory at a path, by path.  A directory is marked by a slash. -/
def listing (tree : FileTree Content) (home : Location) (path : String) :
    List (String × Listed) :=
  match tree.resolve home path with
  | .error _ => []
  | .ok top =>
    let entries := tree.below top
    entries.map fun
      | (location, .directory) => (pathText location ++ "/", .directory)
      | (location, .file _) =>
        if isDataLocation location then
          let siblings := entries.filter fun entry =>
            entry.1.dropLast = location.dropLast && isDataLocation entry.1 &&
              !entry.2.isDirectory
          (pathText (location.dropLast ++ [dataPattern]), .dataFiles siblings.length)
        else (pathText location, .file)

/-- The tree without the data files below a path, and how many they were. -/
def dropData (tree : FileTree Content) (home : Location) (path : String) :
    Nat × FileTree Content :=
  match tree.resolve home path with
  | .error _ => (0, tree)
  | .ok top =>
    let isDropped (entry : Location × Entry Content) :=
      isBelow top entry.1 && isDataLocation entry.1 && !entry.2.isDirectory
    ((tree.entries.filter isDropped).length, tree.keep fun entry => !isDropped entry)

end LogTable.FileTree
