import LogTable.Predicate.Expr

/-!
# Values that show without a row

`Expr.known?` is the value that an expression is seen to have on every row before any row is looked
at: constants are computed, a side that settles a connective settles it, and columns are never
missing.  `Expr.isAlwaysTrue` says that a predicate holds everywhere in this sense.
-/

namespace LogTable.Predicate.Expr

/-- The value of the expression can be missing, as far as its parts show. -/
def mayBeMissing : Expr → Bool
  | const v => v.isNull
  | column _ => false
  | cast lenient _ e => lenient || e.mayBeMissing
  | negate _ e => e.mayBeMissing
  | arithmetic _ _ a b => a.mayBeMissing || b.mayBeMissing
  | compare _ a b => a.mayBeMissing || b.mayBeMissing
  | distinct _ a b => a.mayBeMissing || b.mayBeMissing
  | and a b => a.mayBeMissing || b.mayBeMissing
  | or a b => a.mayBeMissing || b.mayBeMissing
  | not e => e.mayBeMissing
  | test _ _ _ => false
  | like _ _ e pattern => e.mayBeMissing || pattern.mayBeMissing
  | concat a b => a.mayBeMissing || b.mayBeMissing
  | fallback a b => a.mayBeMissing && b.mayBeMissing
  | choose _ result otherwise => result.mayBeMissing || otherwise.mayBeMissing
  | transform _ _ => true

/-- The value of an expression without columns, if it has one. -/
def computed? (e : Expr) : Option Value :=
  (e.eval fun _ => .null).toOption

/-- The value that a product, quotient, remainder or combination of bits with a side of known value
has whatever the other side is: missing if the side is, and zero if the side makes it so. -/
def absorbed? (op : ArithmeticOp) (a b : Expr) (known knownRight : Option Value) : Option Value :=
  match op, known, knownRight with
  | .add, _, _ => none
  | .subtract, _, _ => none
  | _, some .null, _ => some .null
  | _, _, some .null => some .null
  | .multiply, some (.int 0), _ => if b.mayBeMissing then none else some (.int 0)
  | .multiply, _, some (.int 0) => if a.mayBeMissing then none else some (.int 0)
  | .remainder, _, some (.int 1) => if a.mayBeMissing then none else some (.int 0)
  | .bitAnd, some (.int 0), _ => if b.mayBeMissing then none else some (.int 0)
  | .bitAnd, _, some (.int 0) => if a.mayBeMissing then none else some (.int 0)
  | _, _, _ => none

/-- The value of an expression on every row, as far as it shows without one. -/
def known? : Expr → Option Value
  | const v => some v
  | column _ => none
  | cast lenient kind e => e.known?.bind fun v => computed? (cast lenient kind (const v))
  | negate kind e => e.known?.bind fun v => computed? (negate kind (const v))
  | arithmetic kind op a b =>
    match a.known?, b.known? with
    | some v, some w => computed? (arithmetic kind op (const v) (const w))
    | v, w => absorbed? op a b v w
  | compare op a b =>
    match a.known?, b.known? with
    | some .null, _ => some .null
    | _, some .null => some .null
    | some v, some w => computed? (compare op (const v) (const w))
    | _, _ => none
  | distinct negated a b =>
    match a.known?, b.known? with
    | some v, some w => computed? (distinct negated (const v) (const w))
    | _, _ => none
  | and a b =>
    match a.known?, b.known? with
    | some (.bool false), _ => some (.bool false)
    | _, some (.bool false) => some (.bool false)
    | some v, some w => computed? (and (const v) (const w))
    | _, _ => none
  | or a b =>
    match a.known?, b.known? with
    | some (.bool true), _ => some (.bool true)
    | _, some (.bool true) => some (.bool true)
    | some v, some w => computed? (or (const v) (const w))
    | _, _ => none
  | not e => e.known?.bind fun v => computed? (not (const v))
  | test t negated e =>
    match e.known? with
    | some v => computed? (test t negated (const v))
    | none =>
      if (t = .null ∨ t = .unknown) ∧ e.mayBeMissing = false then some (.bool negated) else none
  | like foldCase negated e pattern =>
    match e.known?, pattern.known? with
    | some v, some w => computed? (like foldCase negated (const v) (const w))
    | _, some .null => some .null
    | _, some (.text p) =>
      if (Pattern.ofText p).isOnlyRuns && !e.mayBeMissing then some (.bool !negated) else none
    | _, _ => none
  | concat a b =>
    match a.known?, b.known? with
    | some v, some w => computed? (concat (const v) (const w))
    | _, _ => none
  | fallback a b =>
    match a.known?, b.known? with
    | some v, some w => computed? (fallback (const v) (const w))
    | _, _ => none
  | choose condition result otherwise =>
    match condition.known?, result.known?, otherwise.known? with
    | some c, some v, some w => computed? (choose (const c) (const v) (const w))
    | some (.bool true), some (.bool b), _ => some (.bool b)
    | some (.bool false), _, some (.bool b) => some (.bool b)
    | _, _, _ => none
  | transform f e => e.known?.bind fun v => computed? (transform f (const v))

/-- The expression is seen to hold on every row. -/
def isAlwaysTrue (e : Expr) : Bool :=
  match e.known? with
  | some (.bool b) => b
  | _ => false

end LogTable.Predicate.Expr
