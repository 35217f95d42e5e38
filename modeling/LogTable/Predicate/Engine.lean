import LogTable.Row

/-!
# Engines

Tables do not fix the language of predicates.  An `Engine` says which texts are predicates, which
columns a predicate mentions and where it is true; it may refuse a predicate or fail on some rows.
Tables rely on three laws only: what a predicate does not mention does not matter to it, an engine
that answers tells the truth row by row, and rows are passed over only if the bounds of their file
leave room for none on which the predicate is true.
-/

namespace LogTable

/-- The value lies between two others of its kind. -/
inductive Cell.IsBetween : Cell → Cell → Cell → Prop where
  | int {n low high : Int64} (hlow : (compare low n).isLE) (hhigh : (compare high n).isGE) :
    IsBetween (.int n) (.int low) (.int high)
  | text {s low high : String} (hlow : (compare low s).isLE) (hhigh : (compare high s).isGE) :
    IsBetween (.text s) (.text low) (.text high)
  | time {t low high : Int} (hlow : (compare low t).isLE) (hhigh : (compare high t).isGE) :
    IsBetween (.time t) (.time low) (.time high)

namespace Row

/-- The values of all columns of a row. -/
def values (row : Row) (column : Column) : Option Cell :=
  some (row.cell column)

/-- The values of the row lie between those of two others. -/
def IsBetween (row low high : Row) : Prop :=
  ∀ column, (row.cell column).IsBetween (low.cell column) (high.cell column)

end Row

namespace Predicate

/-- A language of predicates, and how predicates are put to rows. -/
class Engine where
  /-- The predicates that have been read. -/
  Condition : Type
  /-- The predicate that a text stands for, unless the text is refused. -/
  read? (text : String) : Option Condition
  /-- The columns that a predicate mentions. -/
  columns (condition : Condition) : List Column
  /-- The predicate is refused before it is put to any row, if all its columns are partition columns
  or if they are not. -/
  isRefused (onPartitions : Bool) (condition : Condition) : Bool
  /-- The predicate is true, and neither false nor unknown, where the columns have the given values.
  A column may have none. -/
  isTrueAt (condition : Condition) (values : Column → Option Cell) : Bool
  /-- Whether the predicate is true at each of some values, unless the evaluation fails. -/
  verdicts? (condition : Condition) (values : List (Column → Option Cell)) : Option (List Bool)
  /-- The predicate is seen to be true of no row between two others. -/
  isExcluded (condition : Condition) (low high : Row) : Bool
  /-- A predicate depends on the columns that it mentions only. -/
  isTrueAt_congr {condition : Condition} {values values' : Column → Option Cell}
    (h : ∀ column ∈ columns condition, values column = values' column) :
    isTrueAt condition values = isTrueAt condition values'
  /-- The verdicts are those on each of the values by itself. -/
  eq_map_of_verdicts? {condition : Condition} {values : List (Column → Option Cell)}
    {verdicts : List Bool} (h : verdicts? condition values = some verdicts) :
    verdicts = values.map (isTrueAt condition)
  /-- Where a predicate is seen to be true of no row, it is true of none. -/
  isTrueAt_eq_false_of_isExcluded {condition : Condition} {row low high : Row}
    (h : isExcluded condition low high = true) (hrow : row.IsBetween low high) :
    isTrueAt condition row.values = false

/-- The predicate is true of a row. -/
def Engine.isTrueOf [Engine] (condition : Engine.Condition) (row : Row) : Bool :=
  Engine.isTrueAt condition row.values

end Predicate

end LogTable
