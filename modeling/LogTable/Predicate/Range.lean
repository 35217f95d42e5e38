import LogTable.Predicate.Expr

/-!
# Ranges of values

A `Range` holds the lowest and the highest value of a column in a file.  `Expr.isExcluded` says that
the ranges of a file alone rule out that a predicate has a given truth on one of its rows.
-/

namespace LogTable.Predicate

/-- The comparison that holds of two values exactly when this one fails. -/
def CompareOp.opposite : CompareOp → CompareOp
  | .equal => .unequal
  | .unequal => .equal
  | .less => .greaterEqual
  | .lessEqual => .greater
  | .greater => .lessEqual
  | .greaterEqual => .less

@[simp] theorem CompareOp.holdsFor_opposite (op : CompareOp) (o : Ordering) :
    op.opposite.holdsFor o = !op.holdsFor o := by
  cases op <;> cases o <;> rfl

/-- The lowest and the highest of some values. -/
structure Range where
  low : Value
  high : Value

namespace Range

/-- The comparison of two values is known to fail. -/
def fails (op : CompareOp) (v w : Value) : Bool :=
  match Value.compareWith op v w with
  | .ok (some false) => true
  | _ => false

/-- No value of the range stands in the given relation to `v`. -/
def excludes (r : Range) (op : CompareOp) (v : Value) : Bool :=
  match op with
  | .equal => fails .lessEqual r.low v || fails .greaterEqual r.high v
  | .unequal => fails .unequal r.low v && fails .unequal r.high v
  | .less => fails .less r.low v
  | .lessEqual => fails .lessEqual r.low v
  | .greater => fails .greater r.high v
  | .greaterEqual => fails .greaterEqual r.high v

end Range

namespace Expr

/-- The value of an expression that mentions no column. -/
def constant? (e : Expr) : Option Value :=
  if e.columns = [] then (e.eval fun _ => .null).toOption else none

/-- The ranges rule out that the comparison of two expressions holds: one is a column and the other
a value outside its range. -/
def isComparisonExcluded (ranges : Column → Option Range) (op : CompareOp) (a b : Expr) : Bool :=
  match a, b with
  | column c, e =>
    match ranges c, e.constant? with
    | some r, some v => r.excludes op v
    | _, _ => false
  | e, column c =>
    match ranges c, e.constant? with
    | some r, some v => r.excludes op.flip v
    | _, _ => false
  | _, _ => false

/-- The ranges of the columns rule out that the truth of an expression is `wanted` on a row. -/
def isExcluded (ranges : Column → Option Range) (wanted : Bool) : Expr → Bool
  | const (.bool b) => b != wanted
  | const .null => true
  | compare op a b => isComparisonExcluded ranges (if wanted then op else op.opposite) a b
  | and a b =>
    if wanted then a.isExcluded ranges true || b.isExcluded ranges true
    else a.isExcluded ranges false && b.isExcluded ranges false
  | or a b =>
    if wanted then a.isExcluded ranges true && b.isExcluded ranges true
    else a.isExcluded ranges false || b.isExcluded ranges false
  | not e => e.isExcluded ranges !wanted
  | _ => false

end Expr

end LogTable.Predicate
