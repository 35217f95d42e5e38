import LogTable.Predicate.Pattern
import LogTable.Predicate.Term
import LogTable.Text.Case

/-!
# Expressions

An `Expr` is a predicate whose columns and kinds are known.  `Expr.eval` is its value on a row, and
`Expr.truth` its truth there.  A fault in any part that is looked at is a fault of the whole; only
`choose` looks at no more than it needs.
-/

namespace LogTable.Predicate

/-- The functions of one value. -/
inductive Transform where
  | upper
  | lower
  | length
  | abs
  deriving DecidableEq, Repr

namespace Transform

/-- The result of a function on a value.  The absolute value of the lowest whole number is none. -/
def apply (f : Transform) (v : Value) : Except EvalFault Value :=
  match f, v with
  | _, .null => .ok .null
  | upper, .text s => .ok (.text (Text.upper s))
  | lower, .text s => .ok (.text (Text.lower s))
  | length, .text s => .ok (.int s.length)
  | abs, .int n => if n = Int64.minValue.toInt then .error .overflow else .ok (.int n.natAbs)
  | abs, .single x => .ok (.single x.abs)
  | abs, .real x => .ok (.real x.abs)
  | _, _ => .error .mismatch

end Transform

/-- A predicate, or a part of one, with known columns and kinds. -/
inductive Expr where
  | const (v : Value)
  | column (c : Column)
  /-- The value read as one of another kind; if `lenient`, an unreadable value is missing. -/
  | cast (lenient : Bool) (kind : Kind) (e : Expr)
  | negate (kind : Kind) (e : Expr)
  | arithmetic (kind : Kind) (op : ArithmeticOp) (a b : Expr)
  | compare (op : CompareOp) (a b : Expr)
  | distinct (negated : Bool) (a b : Expr)
  | and (a b : Expr)
  | or (a b : Expr)
  | not (e : Expr)
  | test (test : Test) (negated : Bool) (e : Expr)
  | like (foldCase negated : Bool) (e pattern : Expr)
  | concat (a b : Expr)
  /-- The first of two values that is not missing. -/
  | fallback (a b : Expr)
  | choose (condition result otherwise : Expr)
  | transform (f : Transform) (e : Expr)

/-- What `is` says about a value. -/
def Test.holds : Test → Value → Except EvalFault Bool
  | .null, v => .ok v.isNull
  | .true, v => do return (← v.truth) = some Bool.true
  | .false, v => do return (← v.truth) = some Bool.false
  | .unknown, v => do return (← v.truth) = none

namespace Expr

/-- The value of an expression on a row whose columns have the values `row`. -/
def eval (row : Column → Value) : Expr → Except EvalFault Value
  | const v => .ok v
  | column c => .ok (row c)
  | cast lenient kind e => do
    let v ← e.eval row
    match v.cast kind with
    | .ok v => return v
    | .error fault => if lenient then return .null else throw fault
  | negate kind e => do Value.negate kind (← e.eval row)
  | arithmetic kind op a b => do
    let v ← a.eval row
    let w ← b.eval row
    Value.arithmetic kind op v w
  | compare op a b => do
    let v ← a.eval row
    let w ← b.eval row
    return .ofTruth (← Value.compareWith op v w)
  | distinct negated a b => do
    let v ← a.eval row
    let w ← b.eval row
    return .bool ((← Value.isDistinct v w) != negated)
  | and a b => do
    let v ← a.eval row
    let w ← b.eval row
    return .ofTruth ((← v.truth).and (← w.truth))
  | or a b => do
    let v ← a.eval row
    let w ← b.eval row
    return .ofTruth ((← v.truth).or (← w.truth))
  | not e => do
    let v ← e.eval row
    return .ofTruth (← v.truth).not
  | test t negated e => do
    let v ← e.eval row
    return .bool ((← t.holds v) != negated)
  | like foldCase negated e pattern => do
    let v ← e.eval row
    let w ← pattern.eval row
    match v, w with
    | .null, _ => return .null
    | _, .null => return .null
    | .text s, .text p => return .bool (Pattern.matchesText foldCase p s != negated)
    | _, _ => throw .mismatch
  | concat a b => do
    let v ← a.eval row
    let w ← b.eval row
    match v, w with
    | .null, _ => return .null
    | _, .null => return .null
    | .text s, .text t => return .text (s ++ t)
    | _, _ => throw .mismatch
  | fallback a b => do
    let v ← a.eval row
    let w ← b.eval row
    return if v.isNull then w else v
  | choose condition result otherwise => do
    let v ← condition.eval row
    if (← v.truth).holds then result.eval row else otherwise.eval row
  | transform f e => do f.apply (← e.eval row)

/-- The truth of an expression on a row. -/
def truth (row : Column → Value) (e : Expr) : Except EvalFault Truth := do
  (← e.eval row).truth

/-- The columns that an expression mentions. -/
def columns : Expr → List Column
  | const _ => []
  | column c => [c]
  | cast _ _ e => e.columns
  | negate _ e => e.columns
  | arithmetic _ _ a b => a.columns ++ b.columns
  | compare _ a b => a.columns ++ b.columns
  | distinct _ a b => a.columns ++ b.columns
  | and a b => a.columns ++ b.columns
  | or a b => a.columns ++ b.columns
  | not e => e.columns
  | test _ _ e => e.columns
  | like _ _ e pattern => e.columns ++ pattern.columns
  | concat a b => a.columns ++ b.columns
  | fallback a b => a.columns ++ b.columns
  | choose condition result otherwise =>
    condition.columns ++ result.columns ++ otherwise.columns
  | transform _ e => e.columns

/-- The value of an expression depends only on the columns that it mentions. -/
theorem eval_congr {row other : Column → Value} (e : Expr)
    (h : ∀ c ∈ e.columns, row c = other c) : e.eval row = e.eval other := by
  induction e with
  | const v => rfl
  | column c => simp [eval, h c (by simp [columns])]
  | cast l k e ih => simp only [eval, ih h]
  | negate k e ih => simp only [eval, ih h]
  | not e ih => simp only [eval, ih h]
  | test t n e ih => simp only [eval, ih h]
  | transform f e ih => simp only [eval, ih h]
  | choose c r o ihc ihr iho =>
    simp only [columns, List.mem_append, or_imp, forall_and] at h
    simp only [eval, ihc h.1.1, ihr h.1.2, iho h.2]
  | _ =>
    rename_i iha ihb
    simp only [columns, List.mem_append, or_imp, forall_and] at h
    simp only [eval, iha h.1, ihb h.2]

end Expr

end LogTable.Predicate
