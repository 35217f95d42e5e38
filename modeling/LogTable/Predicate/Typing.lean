import LogTable.Predicate.Expr
import LogTable.Predicate.Grammar

/-!
# Typing of predicates

`Term.typed` finds the columns and kinds of a term and turns it into an expression: values that are
compared or combined are first read as values of a common kind.  A `PlanFault` says why a text is no
predicate.
-/

namespace LogTable.Predicate

/-- Why a text is no predicate. -/
inductive PlanFault where
  /-- No term stands at the front of the text. -/
  | noTerm
  | unknownColumn (name : String)
  | unreadableNumber (digits : String)
  | noCommonKind (j k : Kind)
  | wrongKind (k : Kind)
  | wrongArguments (function : Function)
  deriving DecidableEq, Repr

/-- An expression with the kind of its values. -/
structure Typed where
  expr : Expr
  kind : Kind

namespace Typed

/-- The expression with its values read as values of the kind `k`. -/
def as (t : Typed) (k : Kind) : Expr :=
  if t.kind = k then t.expr else .cast false k t.expr

/-- The kind has truth values. -/
def isTruth (t : Typed) : Bool :=
  t.kind = .bool || t.kind = .null

/-- The expression, if its values are truth values. -/
def truthExpr (t : Typed) : Except PlanFault Expr :=
  if t.isTruth then .ok t.expr else .error (.wrongKind t.kind)

/-- The common kind of two expressions. -/
def commonKind (j k : Kind) : Except PlanFault Kind :=
  match Kind.common? j k with
  | some k => .ok k
  | none => .error (.noCommonKind j k)

/-- The common kind of a kind and a list of expressions. -/
def commonKindOf (k : Kind) (ts : List Typed) : Except PlanFault Kind :=
  ts.foldlM (fun k t => commonKind k t.kind) k

/-- A comparison in the common kind of its sides. -/
def compare (op : CompareOp) (a b : Typed) : Except PlanFault Typed := do
  let k ← commonKind a.kind b.kind
  return ⟨.compare op (a.as k) (b.as k), .bool⟩

/-- The negation of an expression if `negated`. -/
def negateIf (negated : Bool) (e : Expr) : Expr :=
  if negated then .not e else e

/-- The number that a run of digits, with a point or an exponent perhaps, stands for.  Whole numbers
beyond 64 bits are numbers with a fraction. -/
def ofDigits (negative : Bool) (digits : String) : Except PlanFault Typed :=
  let signed := (if negative then "-" else "") ++ digits
  match Value.wholeOfText? signed with
  | some n =>
    if IntWidth.w64.covers n then .ok ⟨.const (.int n), .int .w64⟩
    else if 0 ≤ n ∧ n < UInt64.size then .ok ⟨.const (.int n), .wide⟩
    else real signed
  | none => real signed
where
  /-- The number with a fraction that a text stands for. -/
  real (signed : String) : Except PlanFault Typed :=
    match Value.realOfText? signed with
    | some x => .ok ⟨.const (.real x), .real⟩
    | none => .error (.unreadableNumber signed)

/-- The value is one of the items: it equals the first or is one of the others. -/
def amongExpr (k : Kind) (t : Typed) : List Typed → Expr
  | [] => .const (.bool false)
  | [item] => .compare .equal (t.as k) (item.as k)
  | item :: items => .or (.compare .equal (t.as k) (item.as k)) (amongExpr k t items)

/-- The first of some values that is not missing. -/
def coalesceExpr (k : Kind) : List Typed → Expr
  | [] => .const .null
  | [t] => t.as k
  | t :: ts => .fallback (t.as k) (coalesceExpr k ts)

/-- The result of the first branch whose condition holds. -/
def casesExpr (k : Kind) (otherwise : Expr) : List (Expr × Typed) → Expr
  | [] => otherwise
  | (condition, result) :: rest => .choose condition (result.as k) (casesExpr k otherwise rest)

/-- The conditions of the branches of a `case`: each is a truth value, or is compared with the
operand if there is one. -/
def conditions (operand : Option Typed) (branches : List (Typed × Typed)) :
    Except PlanFault (List (Expr × Typed)) :=
  match operand with
  | none => branches.mapM fun (condition, result) => do return (← condition.truthExpr, result)
  | some operand => do
    let k ← commonKindOf operand.kind (branches.map Prod.fst)
    return branches.map fun (condition, result) =>
      (.compare .equal (operand.as k) (condition.as k), result)

/-- A choice between the results of branches, in their common kind. -/
def ofCases (operand : Option Typed) (branches : List (Typed × Typed)) (otherwise : Option Typed) :
    Except PlanFault Typed := do
  let conditions ← conditions operand branches
  let otherwise := otherwise.getD ⟨.const .null, .null⟩
  let k ← commonKindOf otherwise.kind (branches.map Prod.snd)
  return ⟨casesExpr k (otherwise.as k) conditions, k⟩

/-- A call of a function. -/
def ofCall (function : Function) (arguments : List Typed) : Except PlanFault Typed :=
  match function, arguments with
  | .upper, [t] => onText .upper t
  | .lower, [t] => onText .lower t
  | .length, [t] => .ok ⟨.transform .length (t.as .text), .int .w32⟩
  | .abs, [t] =>
    if t.kind.isNumeric || t.kind = .null then .ok ⟨.transform .abs t.expr, t.kind⟩
    else .error (.wrongKind t.kind)
  | .coalesce, t :: ts => do
    let k ← commonKindOf t.kind ts
    return ⟨coalesceExpr k (t :: ts), k⟩
  | function, _ => .error (.wrongArguments function)
where
  /-- A function of a text. -/
  onText (f : Transform) (t : Typed) : Except PlanFault Typed :=
    if t.kind = .text ∨ t.kind = .null then .ok ⟨.transform f (t.as .text), .text⟩
    else .error (.wrongKind t.kind)

end Typed

namespace Term

open Typed

mutual

/-- The expression of a term, and the kind of its values. -/
def typed : Term → Except PlanFault Typed
  | column name =>
    match Column.ofName? name with
    | some c => .ok ⟨.column c, .ofColumn c⟩
    | none => .error (.unknownColumn name)
  | number negative digits => ofDigits negative digits
  | text content => .ok ⟨.const (.text content), .text⟩
  | bool b => .ok ⟨.const (.bool b), .bool⟩
  | null => .ok ⟨.const .null, .null⟩
  | not t => do
    let t ← t.typed
    return ⟨.not (← t.truthExpr), .bool⟩
  | negate t => do
    let t ← t.typed
    match t.kind with
    | .null => return t
    | .int _ | .single | .real => return ⟨.negate t.kind t.expr, t.kind⟩
    | k => throw (.wrongKind k)
  | plus t => do
    let t ← t.typed
    if t.kind.isNumeric || t.kind = .time then return t else throw (.wrongKind t.kind)
  | and a b => do
    let a ← a.typed
    let b ← b.typed
    return ⟨.and (← a.truthExpr) (← b.truthExpr), .bool⟩
  | or a b => do
    let a ← a.typed
    let b ← b.typed
    return ⟨.or (← a.truthExpr) (← b.truthExpr), .bool⟩
  | arithmetic op a b => do
    let a ← a.typed
    let b ← b.typed
    match Kind.arithmetic? op a.kind b.kind with
    | some k => return ⟨.arithmetic k op (a.as k) (b.as k), k⟩
    | none => throw (.noCommonKind a.kind b.kind)
  | compare op a b => do
    let a ← a.typed
    let b ← b.typed
    Typed.compare op a b
  | concat a b => do
    let a ← a.typed
    let b ← b.typed
    if (a.kind = .text ∨ b.kind = .text) ∧ a.kind.isWritable ∧ b.kind.isWritable then
      return ⟨.concat (a.as .text) (b.as .text), .text⟩
    else throw (.noCommonKind a.kind b.kind)
  | test .null negated t => do
    let t ← t.typed
    return ⟨.test .null negated t.expr, .bool⟩
  | test asked negated t => do
    let t ← t.typed
    return ⟨.test asked negated (← t.truthExpr), .bool⟩
  | distinct negated a b => do
    let a ← a.typed
    let b ← b.typed
    let k ← commonKind a.kind b.kind
    return ⟨.distinct negated (a.as k) (b.as k), .bool⟩
  | among negated t items => do
    let t ← t.typed
    let items ← typedList items
    let k ← commonKindOf t.kind items
    return ⟨negateIf negated (amongExpr k t items), .bool⟩
  | between negated t low high => do
    let t ← t.typed
    let low ← low.typed
    let high ← high.typed
    let k ← commonKind (← commonKind t.kind low.kind) (← commonKind t.kind high.kind)
    let inside := Expr.and (.compare .greaterEqual (t.as k) (low.as k))
      (.compare .lessEqual (t.as k) (high.as k))
    return ⟨negateIf negated inside, .bool⟩
  | like foldCase negated t pattern => do
    let t ← t.typed
    let pattern ← pattern.typed
    if (t.kind = .text ∨ t.kind = .null) ∧ (pattern.kind = .text ∨ pattern.kind = .null) then
      return ⟨.like foldCase negated (t.as .text) (pattern.as .text), .bool⟩
    else throw (.noCommonKind t.kind pattern.kind)
  | cases operand branches otherwise => do
    let operand ← typedOption operand
    let branches ← typedBranches branches
    let otherwise ← typedOption otherwise
    ofCases operand branches otherwise
  | cast lenient k t => do
    let t ← t.typed
    return ⟨if t.kind = k then t.expr else .cast lenient k t.expr, k⟩
  | call function arguments => do
    let arguments ← typedList arguments
    ofCall function arguments

/-- The expressions of a list of terms. -/
def typedList : List Term → Except PlanFault (List Typed)
  | [] => .ok []
  | t :: ts => do
    let first ← t.typed
    let rest ← typedList ts
    return first :: rest

/-- The expressions of the branches of a `case`. -/
def typedBranches : List (Term × Term) → Except PlanFault (List (Typed × Typed))
  | [] => .ok []
  | (condition, result) :: rest => do
    let condition ← condition.typed
    let result ← result.typed
    let rest ← typedBranches rest
    return (condition, result) :: rest

/-- The expression of a term that may be left out. -/
def typedOption : Option Term → Except PlanFault (Option Typed)
  | none => .ok none
  | some t => do
    let t ← t.typed
    return some t

end

end Term

/-- The predicate at the front of a text. -/
def Typed.ofText (s : String) : Except PlanFault Typed :=
  match Term.ofText? s with
  | some t => t.typed
  | none => .error .noTerm

end LogTable.Predicate
