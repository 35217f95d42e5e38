import LogTable.Table.Snapshot
import LogTable.Text.Percent

/-!
# Partitions

A table can keep the rows of each combination of values of its partition columns in files of their
own.  `Partition.groups` splits rows in this way, and `Partition.directory` is the directory for the
files of a group: one level for each column, named by the column and its value.
-/

namespace LogTable

/-- The values of some columns. -/
abbrev PartitionValues : Type := List (Column × Cell)

namespace Partition

/-- The values that a row has in the given columns. -/
def valuesOf (columns : List Column) (row : Row) : PartitionValues :=
  columns.map fun column => (column, row.cell column)

/-- The rows with each combination of values, in the order in which the combinations first occur. -/
def groups (columns : List Column) (rows : List Row) : List (PartitionValues × List Row) :=
  (rows.map (valuesOf columns)).eraseDups.map fun values =>
    (values, rows.filter fun row => valuesOf columns row = values)

/-- A value as text: ids in decimal, times as `YYYY-MM-DD HH:MM:SS.ffffff`. -/
def cellText : Cell → String
  | .int n => toString n.toInt
  | .text s => s
  | .time micros =>
    let c := Civil.ofMicros micros
    s!"{c.dateText} {c.clockText}.{c.fractionText}"

/-- The characters that stand for themselves in a segment of a path in the store. -/
def isPathCharacter (c : Char) : Bool :=
  32 ≤ c.toNat && c.toNat < 127 &&
    c ∉ ['\\', '\x7b', '^', '\x7d', '%', '\x60', ']', '\x22', '>', '[', '~', '<', '#', '|', '*',
      '?']

/-- A segment of a path in the store.  The segments that mean the same or the upper directory are
spelled out. -/
def storeSegment (segment : List Char) : String :=
  if segment = ['.'] then "%2E"
  else if segment = ['.', '.'] then "%2E%2E"
  else Text.percentEncoded isPathCharacter (String.ofList segment)

/-- A text as a path in the store: its segments without the empty ones. -/
def storePath (s : String) : String :=
  String.intercalate "/"
    (((s.toList.splitOn '/').filter (· ≠ [])).map storeSegment)

/-- The characters that stand for themselves in the name of a directory. -/
def isNameCharacter (c : Char) : Bool :=
  c.isAlphanum || c == '-' || c == '_' || c == '.' || c == '~'

/-- The name of the directory for a value of a column: what the store makes of the value as a path,
encoded once more. -/
def directoryName (column : Column) (cell : Cell) : String :=
  column.name ++ "=" ++ Text.percentEncoded isNameCharacter (storePath (cellText cell))

/-- The directory of the files with the given values, below the place of the table. -/
def directory (values : PartitionValues) : Location :=
  values.map fun entry => directoryName entry.1 entry.2

/-- Every group holds a row. -/
theorem ne_nil_of_mem_groups {columns : List Column} {rows : List Row}
    {group : PartitionValues × List Row} (h : group ∈ groups columns rows) : group.2 ≠ [] := by
  simp only [groups, List.mem_map, List.mem_eraseDups] at h
  obtain ⟨values, ⟨row, hrow, rfl⟩, rfl⟩ := h
  exact List.ne_nil_of_mem (List.mem_filter.2 ⟨hrow, by simp⟩)

/-- The rows of a group are rows of the whole that have the values of the group. -/
theorem mem_of_mem_groups {columns : List Column} {rows : List Row}
    {group : PartitionValues × List Row} (h : group ∈ groups columns rows) {row : Row}
    (hrow : row ∈ group.2) : row ∈ rows ∧ valuesOf columns row = group.1 := by
  simp only [groups, List.mem_map, List.mem_eraseDups] at h
  obtain ⟨values, _, rfl⟩ := h
  simpa using hrow

end Partition

namespace Row

/-- The smaller of two values. -/
def least {α : Type} [Ord α] (a b : α) : α :=
  if (compare a b).isLE then a else b

/-- The greater of two values. -/
def greatest {α : Type} [Ord α] (a b : α) : α :=
  if (compare a b).isGE then a else b

/-- The lower value of each column. -/
def lower (a b : Row) : Row where
  id := least a.id b.id
  message := least a.message b.message
  lastModified := least a.lastModified b.lastModified
  user := least a.user b.user

/-- The higher value of each column. -/
def higher (a b : Row) : Row where
  id := greatest a.id b.id
  message := greatest a.message b.message
  lastModified := greatest a.lastModified b.lastModified
  user := greatest a.user b.user

end Row

/-- The description of a data file with the row `row` and the rows `rows`. -/
def DataFile.ofRows (path : Location) (partition : PartitionValues) (row : Row) (rows : List Row) :
    DataFile where
  path := path
  partition := partition
  low := rows.foldl Row.lower row
  high := rows.foldl Row.higher row

end LogTable
