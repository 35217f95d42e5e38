import LogTable.Predicate.Value

/-!
# Terms

A `Term` is a predicate as written, before its names and kinds are known.  `Term.Function` lists the
functions that a term can call.
-/

namespace LogTable.Predicate

/-- What `is` asks of a value. -/
inductive Test where
  | null
  | true
  | false
  | unknown
  deriving DecidableEq, Repr

/-- The functions that a predicate can call. -/
inductive Function where
  | upper
  | lower
  | length
  | abs
  | coalesce
  deriving DecidableEq, Repr

namespace Function

/-- The function with the given name. -/
def ofName? (name : String) : Option Function :=
  if name = "upper" then some upper
  else if name = "lower" then some lower
  else if name = "length" ∨ name = "char_length" ∨ name = "character_length" then some length
  else if name = "abs" then some abs
  else if name = "coalesce" then some coalesce
  else none

end Function

/-- A predicate as written. -/
inductive Term where
  | column (name : String)
  /-- A number, with a minus sign if it is negative. -/
  | number (negative : Bool) (digits : String)
  | text (content : String)
  | bool (b : Bool)
  | null
  | not (t : Term)
  | negate (t : Term)
  | plus (t : Term)
  | and (a b : Term)
  | or (a b : Term)
  | arithmetic (op : ArithmeticOp) (a b : Term)
  | compare (op : CompareOp) (a b : Term)
  | concat (a b : Term)
  | test (test : Test) (negated : Bool) (t : Term)
  | distinct (negated : Bool) (a b : Term)
  | among (negated : Bool) (t : Term) (items : List Term)
  | between (negated : Bool) (t low high : Term)
  | like (foldCase negated : Bool) (t pattern : Term)
  /-- The result of the first condition that holds, or that equals the operand if there is one. -/
  | cases (operand : Option Term) (branches : List (Term × Term)) (otherwise : Option Term)
  /-- A value read as one of another kind; if `lenient`, an unreadable value is missing. -/
  | cast (lenient : Bool) (kind : Kind) (t : Term)
  | call (function : Function) (arguments : List Term)

namespace Term

/-- A minus sign in front of a term. -/
def minus : Term → Term
  | number false digits => number true digits
  | t => negate t

end Term

end LogTable.Predicate
