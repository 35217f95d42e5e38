import LogTable.Predicate.Moment
import LogTable.Predicate.Truth
import LogTable.Row

/-!
# Values of predicates

A predicate computes with values of the kinds of `Kind`.  This file says how values compare
(`Value.compare?`), how numbers are added, multiplied and divided (`Value.arithmetic`) and how a
value of one kind is read as one of another (`Value.cast`).  The missing value `null` belongs to
every kind, and every operation passes it on.
-/

namespace LogTable.Predicate

/-- The widths of whole numbers that wrap around. -/
inductive IntWidth where
  | w8
  | w16
  | w32
  | w64
  deriving DecidableEq, Repr

namespace IntWidth

/-- The number of bits. -/
def bits : IntWidth → Nat
  | w8 => 8
  | w16 => 16
  | w32 => 32
  | w64 => 64

/-- How many numbers the range of the width has. -/
def modulus : IntWidth → Nat
  | w8 => 0x100
  | w16 => 0x10000
  | w32 => 0x100000000
  | w64 => 0x10000000000000000

/-- The larger of two widths. -/
def max (v w : IntWidth) : IntWidth :=
  if v.bits ≤ w.bits then w else v

/-- The number lies in the range of the width. -/
def covers (w : IntWidth) (n : Int) : Bool :=
  -(w.modulus : Int) ≤ 2 * n && 2 * n < w.modulus

/-- The number of the width's range that agrees with `n` in its lowest bits. -/
def wrap (w : IntWidth) (n : Int) : Int :=
  n.bmod w.modulus

end IntWidth

/-- The kinds of values. -/
inductive Kind where
  /-- The kind of an expression that is always missing. -/
  | null
  | bool
  | int (width : IntWidth)
  /-- Whole numbers beyond 64 bits, without wrapping. -/
  | wide
  /-- Numbers with a fraction in 32 bits. -/
  | single
  /-- Numbers with a fraction in 64 bits. -/
  | real
  | text
  | time
  deriving DecidableEq, Repr

/-- A value. -/
inductive Value where
  | null
  | bool (b : Bool)
  | int (n : Int)
  | single (x : Float32)
  | real (x : Float)
  | text (s : String)
  /-- Microseconds since 1970. -/
  | time (micros : Int)

/-- Why a predicate has no value on a row. -/
inductive EvalFault where
  | divisionByZero
  | overflow
  /-- A value cannot be read as one of another kind. -/
  | unreadable
  /-- An operation met a value that it is not made for. -/
  | mismatch
  deriving DecidableEq, Repr

/-- The value of a cell. -/
def Value.ofCell : Cell → Value
  | .int n => .int n.toInt
  | .text s => .text s
  | .time micros => .time micros

/-- The kind of the values of a column. -/
def Kind.ofColumn : Column → Kind
  | .id => .int .w64
  | .message | .user => .text
  | .lastModified => .time

/-- The ways to combine two numbers. -/
inductive ArithmeticOp where
  | add
  | subtract
  | multiply
  | divide
  | remainder
  | bitAnd
  | bitOr
  | bitXor
  deriving DecidableEq, Repr

/-- The ways to compare two values. -/
inductive CompareOp where
  | equal
  | unequal
  | less
  | lessEqual
  | greater
  | greaterEqual
  deriving DecidableEq, Repr

namespace CompareOp

/-- The comparison holds of two values that stand in the given order. -/
def holdsFor : CompareOp → Ordering → Bool
  | equal, o => o == .eq
  | unequal, o => o != .eq
  | less, o => o == .lt
  | lessEqual, o => o != .gt
  | greater, o => o == .gt
  | greaterEqual, o => o != .lt

/-- The comparison with its sides exchanged. -/
def flip : CompareOp → CompareOp
  | equal => equal
  | unequal => unequal
  | less => greater
  | lessEqual => greaterEqual
  | greater => less
  | greaterEqual => lessEqual

@[simp] theorem holdsFor_flip (op : CompareOp) (o : Ordering) :
    op.flip.holdsFor o.swap = op.holdsFor o := by
  cases op <;> cases o <;> rfl

end CompareOp

namespace Value

/-- The truth value of a value, if it has one. -/
def truth : Value → Except EvalFault Truth
  | bool b => .ok (some b)
  | null => .ok none
  | _ => .error .mismatch

/-- The value of a truth value. -/
def ofTruth : Truth → Value
  | some b => bool b
  | none => null

@[simp] theorem truth_ofTruth (t : Truth) : (ofTruth t).truth = .ok t := by
  cases t <;> rfl

/-- The value is missing. -/
def isNull : Value → Bool
  | null => true
  | _ => false

/-- Where a number with a fraction stands in the order of all of them, by its bits; those from
`half` on have a minus sign.  Negative zero comes before zero, and what is no number comes last. -/
def rank (half bits : Nat) : Int :=
  if bits < half then bits else (half : Int) - bits - 1

/-- The order of two numbers with a fraction in 32 bits. -/
def compareSingle (x y : Float32) : Ordering :=
  Ord.compare (rank 0x80000000 x.toBits.toNat) (rank 0x80000000 y.toBits.toNat)

/-- The order of two numbers with a fraction in 64 bits. -/
def compareReal (x y : Float) : Ordering :=
  Ord.compare (rank 0x8000000000000000 x.toBits.toNat) (rank 0x8000000000000000 y.toBits.toNat)

/-- The order of two values of one kind; unknown if one is missing. -/
def compare? : Value → Value → Except EvalFault (Option Ordering)
  | null, _ => .ok none
  | _, null => .ok none
  | bool a, bool b => .ok (some (Ord.compare a.toNat b.toNat))
  | int a, int b => .ok (some (Ord.compare a b))
  | single a, single b => .ok (some (compareSingle a b))
  | real a, real b => .ok (some (compareReal a b))
  | text a, text b => .ok (some (Ord.compare a b))
  | time a, time b => .ok (some (Ord.compare a b))
  | _, _ => .error .mismatch

/-- Whether a comparison of two values holds. -/
def compareWith (op : CompareOp) (a b : Value) : Except EvalFault Truth := do
  return (← compare? a b).map op.holdsFor

/-- Two values differ, where a missing value equals only a missing one. -/
def isDistinct (a b : Value) : Except EvalFault Bool := do
  match a, b with
  | null, null => return false
  | null, _ => return true
  | _, null => return true
  | a, b => return (← compare? a b) ≠ some .eq

/-- The combination of two whole numbers of a width.  Sums and products wrap around; a quotient is
rounded toward zero and has to lie in the range. -/
def wholeArithmetic (w : IntWidth) (op : ArithmeticOp) (a b : Int) : Except EvalFault Int :=
  match op with
  | .add => .ok (w.wrap (a + b))
  | .subtract => .ok (w.wrap (a - b))
  | .multiply => .ok (w.wrap (a * b))
  | .divide =>
    if b = 0 then .error .divisionByZero
    else if w.covers (a.tdiv b) then .ok (a.tdiv b) else .error .overflow
  | .remainder =>
    if b = 0 then .error .divisionByZero
    else if w.covers (a.tdiv b) then .ok (a.tmod b) else .error .overflow
  | .bitAnd => .ok (Int64.ofInt a &&& Int64.ofInt b).toInt
  | .bitOr => .ok (Int64.ofInt a ||| Int64.ofInt b).toInt
  | .bitXor => .ok (Int64.ofInt a ^^^ Int64.ofInt b).toInt

/-- The combination of two whole numbers without a bound. -/
def wideArithmetic (op : ArithmeticOp) (a b : Int) : Except EvalFault Int :=
  match op with
  | .add => .ok (a + b)
  | .subtract => .ok (a - b)
  | .multiply => .ok (a * b)
  | .remainder => if b = 0 then .error .divisionByZero else .ok (a.tmod b)
  | _ => .error .mismatch

/-- A number without its fraction. -/
def truncateReal (x : Float) : Float :=
  if x < 0 then x.ceil else x.floor

/-- The size of a finite number as `m * 2 ^ (e - 1075)`. -/
def sizeParts (x : Float) : Nat × Nat :=
  let bits := x.toBits.toNat % 0x8000000000000000
  let m := bits % 0x10000000000000
  let e := bits / 0x10000000000000
  if e = 0 then (m, 1) else (m + 0x10000000000000, e)

/-- What is left of a number when another is taken away from it as often as it fits in whole,
without rounding; it has the sign of the first. -/
def remainderReal (x y : Float) : Float :=
  if x.isNaN || y.isNaN || x.isInf || y == 0 then 0 / 0
  else if y.isInf then x
  else
    let (m, e) := sizeParts x
    let (n, f) := sizeParts y
    if e < f then x
    else
      let size := Float.scaleB (Float.ofNat (m <<< (e - f) % n)) ((f : Int) - 1075)
      if x.toBits < 0x8000000000000000 then size else -size

/-- The combination of two numbers with a fraction in 32 bits; nothing is refused. -/
def singleArithmetic (op : ArithmeticOp) (x y : Float32) : Except EvalFault Float32 :=
  match op with
  | .add => .ok (x + y)
  | .subtract => .ok (x - y)
  | .multiply => .ok (x * y)
  | .divide => .ok (x / y)
  | .remainder => .ok (remainderReal x.toFloat y.toFloat).toFloat32
  | _ => .error .mismatch

/-- The combination of two numbers with a fraction in 64 bits; nothing is refused. -/
def realArithmetic (op : ArithmeticOp) (x y : Float) : Except EvalFault Float :=
  match op with
  | .add => .ok (x + y)
  | .subtract => .ok (x - y)
  | .multiply => .ok (x * y)
  | .divide => .ok (x / y)
  | .remainder => .ok (remainderReal x y)
  | _ => .error .mismatch

/-- The combination of two values of a kind of numbers. -/
def arithmetic (kind : Kind) (op : ArithmeticOp) (a b : Value) : Except EvalFault Value :=
  match kind, a, b with
  | _, null, _ => .ok null
  | _, _, null => .ok null
  | .int w, int a, int b => (wholeArithmetic w op a b).map int
  | .wide, int a, int b => (wideArithmetic op a b).map int
  | .single, single a, single b => (singleArithmetic op a b).map single
  | .real, real a, real b => (realArithmetic op a b).map real
  | _, _, _ => .error .mismatch

/-- A number with the opposite sign; a whole number of a width wraps around. -/
def negate (kind : Kind) (a : Value) : Except EvalFault Value :=
  match kind, a with
  | _, null => .ok null
  | .int w, int a => .ok (int (w.wrap (-a)))
  | .single, single a => .ok (single (-a))
  | .real, real a => .ok (real (-a))
  | _, _ => .error .mismatch

/-! ### Reading a value as one of another kind -/

/-- The whole number that a text stands for: digits behind an optional sign. -/
def wholeOfText? (s : String) : Option Int :=
  match s.toList with
  | '+' :: digits => (Moment.number? digits).map Int.ofNat
  | '-' :: digits => (Moment.number? digits).map fun n => -Int.ofNat n
  | digits => (Moment.number? digits).map Int.ofNat

/-- A number that is written with digits, a point and an exponent. -/
structure Decimal where
  negative : Bool
  mantissa : Nat
  exponent : Int

/-- The number that a text of digits, a point and an exponent stands for.  Exponents far beyond the
range of numbers with a fraction are cut. -/
def decimalOfText? (s : String) : Option Decimal := do
  let (negative, cs) := match s.toList with
    | '-' :: cs => (true, cs)
    | '+' :: cs => (false, cs)
    | cs => (false, cs)
  let whole := cs.takeWhile Char.isDigit
  let cs := cs.dropWhile Char.isDigit
  let (places, cs) := match cs with
    | '.' :: cs => (cs.takeWhile Char.isDigit, cs.dropWhile Char.isDigit)
    | cs => ([], cs)
  let mantissa ← Moment.number? (whole ++ places)
  let exponent ← match cs with
    | [] => some 0
    | e :: cs =>
      if e = 'e' ∨ e = 'E' then wholeOfText? (String.ofList cs) else none
  let exponent := exponent - places.length
  if exponent < -(400 + (whole.length + places.length : Nat) : Int) then return ⟨negative, 0, 0⟩
  else return ⟨negative, mantissa, min exponent 400⟩

/-- The number with a fraction in 32 bits that a text stands for. -/
def singleOfText? (s : String) : Option Float32 :=
  (decimalOfText? s).map fun d =>
    let size := Float32.ofScientific d.mantissa (d.exponent < 0) d.exponent.natAbs
    if d.negative then -size else size

/-- The number with a fraction in 64 bits that a text stands for. -/
def realOfText? (s : String) : Option Float :=
  (decimalOfText? s).map fun d =>
    let size := Float.ofScientific d.mantissa (d.exponent < 0) d.exponent.natAbs
    if d.negative then -size else size

/-- The truth value that a text names. -/
def boolOfText? (s : String) : Option Bool :=
  let word := s.toLower
  if word ∈ ["t", "tr", "tru", "true", "y", "ye", "yes", "on", "1"] then some true
  else if word ∈ ["f", "fa", "fal", "fals", "false", "n", "no", "of", "off", "0"] then some false
  else none

/-- A number with a fraction as a whole number, without its fraction. -/
def wholeOfReal? (x : Float) : Option Int :=
  let t := truncateReal x
  if t < 9223372036854775808.0 && -9223372036854775808.0 ≤ t then some t.toInt64.toInt else none

/-- A value read as one of the given kind. -/
def cast (kind : Kind) (v : Value) : Except EvalFault Value :=
  let orFault (v : Option Value) : Except EvalFault Value :=
    match v with
    | some v => .ok v
    | none => .error .unreadable
  match kind, v with
  | _, null => .ok null
  | .bool, bool b => .ok (bool b)
  | .bool, int n => .ok (bool (n ≠ 0))
  | .bool, text s => orFault ((boolOfText? s).map bool)
  | .int w, int n => orFault (if w.covers n then some (int n) else none)
  | .int _, bool b => .ok (int b.toNat)
  | .int w, single x => orFault ((wholeOfReal? x.toFloat).filter (w.covers ·) |>.map int)
  | .int w, real x => orFault ((wholeOfReal? x).filter (w.covers ·) |>.map int)
  | .int w, text s => orFault ((wholeOfText? s).filter (w.covers ·) |>.map int)
  | .int w, time micros => orFault (if w.covers micros then some (int micros) else none)
  | .wide, int n => .ok (int n)
  | .single, int n => .ok (single (Float32.ofInt n))
  | .single, bool b => .ok (single (Float32.ofNat b.toNat))
  | .single, single x => .ok (single x)
  | .single, real x => .ok (single x.toFloat32)
  | .single, text s => orFault ((singleOfText? s).map single)
  | .real, int n => .ok (real (Float.ofInt n))
  | .real, bool b => .ok (real (Float.ofNat b.toNat))
  | .real, single x => .ok (real x.toFloat)
  | .real, real x => .ok (real x)
  | .real, text s => orFault ((realOfText? s).map real)
  | .text, text s => .ok (text s)
  | .text, int n => .ok (text (toString n))
  | .text, bool b => .ok (text (if b then "true" else "false"))
  | .text, time micros => .ok (text (Moment.render micros))
  | .time, time micros => .ok (time micros)
  | .time, text s => orFault ((Moment.parse? s).map time)
  | _, _ => .error .unreadable

end Value

namespace Kind

/-- The kind in which values of two kinds are compared. -/
def common? : Kind → Kind → Option Kind
  | null, k => some k
  | k, null => some k
  | int v, int w => some (int (v.max w))
  | int _, wide => some wide
  | wide, int _ => some wide
  | int _, single => some single
  | single, int _ => some single
  | wide, single => some single
  | single, wide => some single
  | int _, real => some real
  | real, int _ => some real
  | wide, real => some real
  | real, wide => some real
  | single, real => some real
  | real, single => some real
  | text, int _ => some text
  | int _, text => some text
  | text, wide => some text
  | wide, text => some text
  | text, time => some time
  | time, text => some time
  | j, k => if j = k then some j else none

/-- The kind is one of numbers. -/
def isNumeric : Kind → Bool
  | int _ => true
  | wide => true
  | single => true
  | real => true
  | _ => false

/-- The kind in which numbers of two kinds are combined. -/
def arithmetic? (op : ArithmeticOp) (j k : Kind) : Option Kind :=
  if j.isNumeric || k.isNumeric then
    match op, common? j k with
    | .bitAnd, some (int w) => some (int w)
    | .bitOr, some (int w) => some (int w)
    | .bitXor, some (int w) => some (int w)
    | .bitAnd, _ => none
    | .bitOr, _ => none
    | .bitXor, _ => none
    | _, some k => if k.isNumeric then some k else none
    | _, none => none
  else none

/-- Values of the kind can be written as texts. -/
def isWritable : Kind → Bool
  | single => false
  | real => false
  | _ => true

end Kind

end LogTable.Predicate
