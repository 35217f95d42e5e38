import LogTable.Predicate.Engine
import LogTable.Predicate.Exclusion
import LogTable.Predicate.Known
import LogTable.Predicate.Typing

/-!
# The standard engine

`Engine.standard` reads the predicates of `Grammar` and evaluates them by `Expr.eval`.  Its language
is a part of what engines may offer: it has the functions of `Function`, the kinds of `Kind` and the
patterns of `like`, and refuses dates, intervals, decimal fractions, regular expressions and further
functions.
-/

namespace LogTable.Predicate

/-- The value of a cell; where there is none, the value is missing. -/
def Value.ofCell? : Option Cell → Value
  | some cell => .ofCell cell
  | none => .null

/-- The ranges of the columns from one row to another. -/
def Range.ofRows (low high : Row) (column : Column) : Option Range :=
  some ⟨.ofCell (low.cell column), .ofCell (high.cell column)⟩

/-- Ids have the order of the numbers that they stand for. -/
theorem compare_toInt (a b : Int64) : compare a.toInt b.toInt = compare a b := by
  change compareOfLessAndEq a.toInt b.toInt = compareOfLessAndEq a b
  simp only [compareOfLessAndEq, Int64.lt_iff_toInt_lt, Int64.toInt_inj]

/-- The range from one value to another covers the values between them. -/
theorem Range.covers_of_isBetween {cell low high : Cell} (h : cell.IsBetween low high) :
    (⟨.ofCell low, .ofCell high⟩ : Range).Covers (.ofCell cell) := by
  cases h with
  | int hlow hhigh =>
    exact .int (by rw [compare_toInt]; exact hlow) (by rw [compare_toInt]; exact hhigh)
  | text hlow hhigh => exact .text hlow hhigh
  | time hlow hhigh => exact .time hlow hhigh

namespace Typed

/-- The truth of a predicate where the columns have the given values, if it has one. -/
def truthAt? (t : Typed) (values : Column → Option Cell) : Option Truth :=
  (t.expr.truth fun column => .ofCell? (values column)).toOption

/-- The predicate is true where the columns have the given values. -/
def isTrueAt (t : Typed) (values : Column → Option Cell) : Bool :=
  (t.truthAt? values).any Truth.holds

/-- Whether the predicate is true at each of some values, if it has a truth at all of them. -/
def verdicts? (t : Typed) (values : List (Column → Option Cell)) : Option (List Bool) :=
  values.mapM fun values => (t.truthAt? values).map Truth.holds

/-- The ranges from one row to another exclude that the predicate is true. -/
def isExcluded (t : Typed) (low high : Row) : Bool :=
  t.expr.isExcluded (Range.ofRows low high) true

/-- On partition columns a predicate may be always unknown.  Otherwise it has to have truth values,
and one that is seen to hold everywhere is refused. -/
def isRefused (onPartitions : Bool) (t : Typed) : Bool :=
  if onPartitions then !t.isTruth else t.kind ≠ .bool || t.expr.isAlwaysTrue

variable {t : Typed} {values values' : Column → Option Cell}

theorem isTrueAt_congr (h : ∀ column ∈ t.expr.columns, values column = values' column) :
    t.isTrueAt values = t.isTrueAt values' := by
  have hcongr : ∀ column ∈ t.expr.columns,
      Value.ofCell? (values column) = Value.ofCell? (values' column) :=
    fun column hcolumn => by rw [h column hcolumn]
  rw [isTrueAt, isTrueAt, truthAt?, truthAt?, Expr.truth, Expr.truth, t.expr.eval_congr hcongr]

theorem eq_map_of_verdicts? {values : List (Column → Option Cell)} {verdicts : List Bool}
    (h : t.verdicts? values = some verdicts) : verdicts = values.map t.isTrueAt := by
  unfold verdicts? at h
  induction values generalizing verdicts with
  | nil => exact (Option.some.inj h).symm
  | cons first rest ih =>
    rw [List.mapM_cons] at h
    obtain ⟨verdict, hfirst, h⟩ := Option.bind_eq_some_iff.mp h
    obtain ⟨others, hrest, h⟩ := Option.bind_eq_some_iff.mp h
    obtain ⟨truth, htruth, rfl⟩ := Option.map_eq_some_iff.mp hfirst
    obtain rfl := Option.some.inj h
    rw [ih hrest, List.map_cons, isTrueAt, htruth]
    rfl

theorem isTrueAt_eq_false_of_isExcluded {row low high : Row} (h : t.isExcluded low high = true)
    (hrow : row.IsBetween low high) : t.isTrueAt row.values = false := by
  have hcovers : ∀ column range, Range.ofRows low high column = some range →
      range.Covers (.ofCell (row.cell column)) := by
    intro column range hrange
    obtain rfl := Option.some.inj hrange
    exact Range.covers_of_isBetween (hrow column)
  have hne := Expr.truth_ne_of_isExcluded hcovers t.expr true h
  rw [isTrueAt, truthAt?]
  cases htruth : t.expr.truth fun column => .ofCell? (row.values column) with
  | error fault => rfl
  | ok truth =>
    have hfalse : truth ≠ some true := fun htrue => hne (by rw [← htrue, ← htruth]; rfl)
    simpa [Except.toOption, Truth.holds] using hfalse

end Typed

/-- The engine of the predicates of `Grammar`. -/
instance Engine.standard : Engine where
  Condition := Typed
  read? text := (Typed.ofText text).toOption
  columns t := t.expr.columns
  isRefused := Typed.isRefused
  isTrueAt := Typed.isTrueAt
  verdicts? := Typed.verdicts?
  isExcluded := Typed.isExcluded
  isTrueAt_congr := Typed.isTrueAt_congr
  eq_map_of_verdicts? := Typed.eq_map_of_verdicts?
  isTrueAt_eq_false_of_isExcluded := Typed.isTrueAt_eq_false_of_isExcluded

end LogTable.Predicate
