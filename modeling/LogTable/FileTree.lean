import LogTable.Failure

/-!
# Trees of files

A `FileTree` says which directory or file stands at each `Location`.  `find?` is its view, and every
operation is described by what it does to that view: `put` changes one location, `removeBelow`
empties a directory, `remove` takes a location away with all that lies below, and `makeDirectories`
adds the missing directories of a path.
-/

namespace LogTable

/-- A place in a tree of files: the names on the way down from the top. -/
abbrev Location : Type := List String

/-- What stands at a location. -/
inductive Entry (α : Type) where
  | directory
  | file (content : α)

namespace Entry

variable {α : Type}

/-- The entry is a directory. -/
def isDirectory : Entry α → Bool
  | directory => true
  | file _ => false

/-- The content of a file. -/
def content? : Entry α → Option α
  | directory => none
  | file content => some content

end Entry

/-- The directories and files of a machine. -/
structure FileTree (α : Type) where
  /-- Each entry but the top, with its location. -/
  entries : List (Location × Entry α)
  /-- No location has two entries. -/
  nodup : (entries.map Prod.fst).Nodup

namespace FileTree

variable {α : Type}

/-- The tree without entries. -/
def empty : FileTree α := ⟨[], List.nodup_nil⟩

/-- The tree with those of its entries that pass a test. -/
def keep (tree : FileTree α) (p : Location × Entry α → Bool) : FileTree α where
  entries := tree.entries.filter p
  nodup := tree.nodup.sublist (List.filter_sublist.map _)

/-- What stands at a location.  The top is always a directory. -/
def find? (tree : FileTree α) (location : Location) : Option (Entry α) :=
  if location = [] then some .directory else tree.entries.lookup location

/-- A directory stands at the location. -/
def isDirectory (tree : FileTree α) (location : Location) : Bool :=
  (tree.find? location).any Entry.isDirectory

/-- The content of the file at a location. -/
def content? (tree : FileTree α) (location : Location) : Option α :=
  (tree.find? location).bind Entry.content?

/-- The tree with an entry put at a location. -/
def put (tree : FileTree α) (location : Location) (entry : Entry α) : FileTree α where
  entries := (location, entry) :: (tree.keep fun e => e.1 ≠ location).entries
  nodup := by
    refine List.nodup_cons.mpr ⟨?_, (tree.keep _).nodup⟩
    simp [keep]

/-- One location lies strictly below another. -/
def isBelow (top location : Location) : Bool :=
  top.isPrefixOf location && location ≠ top

/-- The tree without the entries strictly below a location. -/
def removeBelow (tree : FileTree α) (top : Location) : FileTree α :=
  tree.keep fun e => !isBelow top e.1

/-- The tree without a location and all that lies below. -/
def remove (tree : FileTree α) (top : Location) : FileTree α :=
  tree.keep fun e => !top.isPrefixOf e.1

/-- The entries strictly below a location, each under its path from there. -/
def below (tree : FileTree α) (top : Location) : List (Location × Entry α) :=
  (tree.entries.filter fun e => isBelow top e.1).map fun e => (e.1.drop top.length, e.2)

/-- The files that stand directly in a directory, by name. -/
def filesIn (tree : FileTree α) (top : Location) : List (String × α) :=
  (tree.below top).filterMap fun
    | ([name], .file content) => some (name, content)
    | _ => none

/-- The longest name of a directory or file, in bytes. -/
def nameLimit : Nat := 255

/-- The name is short enough for a directory or file. -/
def fits (name : String) : Bool :=
  name.utf8ByteSize ≤ nameLimit

/-- Adds the missing directories of a path that starts at the directory `top`.  A file in the way, a
name that is too long or a directory that is gone ends the walk; what was added before stays. -/
def makeDirectories (tree : FileTree α) (top : Location) :
    List String → Except PathFault Location × FileTree α
  | [] => (.ok top, tree)
  | name :: rest =>
    if name = ".." then makeDirectories tree top.dropLast rest
    else if !fits name then (.error .nameTooLong, tree)
    else
      let next := top ++ [name]
      match tree.find? next with
      | some .directory => makeDirectories tree next rest
      | some (.file _) => (.error .alreadyExists, tree)
      | none =>
        if tree.isDirectory top then makeDirectories (tree.put next .directory) next rest
        else (.error .notFound, tree)

@[simp] theorem find?_nil (tree : FileTree α) : tree.find? [] = some .directory := by
  simp [find?]

theorem find?_of_ne_nil (tree : FileTree α) {location : Location} (h : location ≠ []) :
    tree.find? location = tree.entries.lookup location := by
  simp [find?, h]

/-- Keeping the entries whose locations pass a test keeps exactly their look-ups. -/
theorem lookup_filter (p : Location → Bool) (entries : List (Location × Entry α))
    (location : Location) :
    (entries.filter fun e => p e.1).lookup location =
      if p location then entries.lookup location else none := by
  induction entries with
  | nil => simp
  | cons e es ih =>
    obtain ⟨l, x⟩ := e
    cases hp : p l <;> by_cases hl : location = l
    · subst hl
      simp [hp] at ih ⊢
      simpa [hp] using ih
    · have hb : (location == l) = false := by simpa using hl
      simp only [List.filter_cons, hp, List.lookup_cons, hb]
      simpa using ih
    · subst hl
      simp [hp]
    · have hb : (location == l) = false := by simpa using hl
      simp only [List.filter_cons, hp, if_true, List.lookup_cons, hb]
      exact ih

/-- A look-up among entries with different keys finds exactly what is there. -/
theorem lookup_eq_some_iff {κ β : Type} [BEq κ] [LawfulBEq κ] {entries : List (κ × β)} {key : κ}
    {value : β} (nodup : (entries.map Prod.fst).Nodup) :
    entries.lookup key = some value ↔ (key, value) ∈ entries := by
  induction entries with
  | nil => simp
  | cons e es ih =>
    obtain ⟨k, v⟩ := e
    rw [List.map_cons, List.nodup_cons] at nodup
    by_cases hk : key = k
    · subst hk
      have hnot : (key, value) ∉ es := fun hmem => nodup.1 (List.mem_map.mpr ⟨_, hmem, rfl⟩)
      simp [hnot, eq_comm]
    · have hb : (key == k) = false := by simpa using hk
      simp [List.lookup_cons, hb, hk, ih nodup.2]

/-- What stands at a location other than the top is the entry there. -/
theorem find?_eq_some_iff (tree : FileTree α) {location : Location} {entry : Entry α}
    (h : location ≠ []) : tree.find? location = some entry ↔ (location, entry) ∈ tree.entries := by
  rw [find?_of_ne_nil _ h, lookup_eq_some_iff tree.nodup]

/-- A tree holds what was put into it, and is otherwise unchanged. -/
theorem find?_put (tree : FileTree α) {location : Location} (other : Location) (entry : Entry α)
    (h : location ≠ []) :
    (tree.put location entry).find? other =
      if other = location then some entry else tree.find? other := by
  by_cases ho : other = []
  · subst ho
    simp [h.symm]
  · rw [find?_of_ne_nil _ ho, find?_of_ne_nil _ ho]
    by_cases hl : other = location
    · subst hl
      simp [put]
    · have hb : (other == location) = false := by simpa using hl
      simp only [put, keep, List.lookup_cons, hb, if_neg hl]
      rw [lookup_filter fun l => decide (l ≠ location)]
      simp [hl]

/-- Emptying a directory takes away exactly what lies strictly below it. -/
theorem find?_removeBelow (tree : FileTree α) (top location : Location) :
    (tree.removeBelow top).find? location =
      if isBelow top location then none else tree.find? location := by
  by_cases ho : location = []
  · subst ho
    cases top <;> simp [isBelow]
  · rw [find?_of_ne_nil _ ho, find?_of_ne_nil _ ho]
    simp only [removeBelow, keep]
    rw [lookup_filter fun l => !isBelow top l]
    cases isBelow top location <;> rfl

/-- Removing a location other than the top takes away exactly it and what lies below. -/
theorem find?_remove (tree : FileTree α) {top : Location} (location : Location) (h : top ≠ []) :
    (tree.remove top).find? location =
      if top.isPrefixOf location then none else tree.find? location := by
  by_cases ho : location = []
  · subst ho
    cases top with
    | nil => exact absurd rfl h
    | cons _ _ => simp [List.isPrefixOf]
  · rw [find?_of_ne_nil _ ho, find?_of_ne_nil _ ho]
    simp only [remove, keep]
    rw [lookup_filter fun l => !top.isPrefixOf l]
    cases top.isPrefixOf location <;> rfl

end FileTree

end LogTable
