import LogTable.Instant

/-!
# Rows and their columns

A table has the four columns of `Column.all`.  A `Row` holds one value for each of them, `Row.cell`
reads the value of a column as a `Cell`, and `schema` describes the columns for the outside.
-/

namespace LogTable

/-- The columns of every table, in their order. -/
inductive Column where
  | id
  | message
  | lastModified
  | user
  deriving DecidableEq, Repr

namespace Column

/-- All columns in the order of the schema. -/
def all : List Column := [id, message, lastModified, user]

/-- The name by which settings and predicates know a column. -/
def name : Column → String
  | id => "id"
  | message => "message"
  | lastModified => "last_modified"
  | user => "user"

/-- The column with the given name; case counts. -/
def ofName? (name : String) : Option Column :=
  all.find? (·.name == name)

@[simp] theorem ofName?_name (c : Column) : ofName? c.name = some c := by
  cases c <;> decide

theorem name_injective {c d : Column} (h : c.name = d.name) : c = d := by
  have := ofName?_name c
  rw [h, ofName?_name] at this
  exact (Option.some.inj this).symm

end Column

/-- The value of one column of a row. -/
inductive Cell where
  | int (n : Int64)
  | text (s : String)
  /-- Microseconds since 1970. -/
  | time (micros : Int)
  deriving DecidableEq, Repr

/-- One row of a table. -/
structure Row where
  id : Int64
  message : String
  /-- Microseconds since 1970. -/
  lastModified : Int
  user : String
  deriving DecidableEq, Repr

namespace Row

/-- The value that a row has in a column. -/
def cell (row : Row) : Column → Cell
  | .id => .int row.id
  | .message => .text row.message
  | .lastModified => .time row.lastModified
  | .user => .text row.user

/-- The user that a row with this id is filed under: `even_user` exactly for even ids, negative ones
too. -/
def userLabel (id : Int64) : String :=
  if id % 2 = 0 then "even_user" else "odd_user"

end Row

/-- The description of a column. -/
structure Field where
  name : String
  /-- The name of the column's type. -/
  type : String
  nullable : Bool
  deriving DecidableEq, Repr

/-- The description of a column: no column holds nulls, and times are in microseconds. -/
def Column.field (c : Column) : Field where
  name := c.name
  type := match c with
    | .id => "Int64"
    | .message | .user => "Utf8"
    | .lastModified => "Timestamp(Microsecond, Some(\"UTC\"))"
  nullable := false

/-- The description of all columns. -/
def schema : List Field := Column.all.map Column.field

end LogTable
