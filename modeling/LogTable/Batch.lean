import LogTable.Failure
import LogTable.Row

/-!
# Batches of generated rows

`Batch.generate` makes a batch of rows with consecutive ids, one day apart and going back in time.
A `BatchPlan` says how many batches of which size a run appends; `BatchPlan.starts` gives the first
id of each and `BatchPlan.totalRows` the number of rows of all.  Ids are 64-bit signed and counts
64-bit unsigned integers, and every sum and product is checked.
-/

namespace LogTable

/-- The sum of an id and an offset, unless it is no id. -/
def checkedAdd (a b : Int) : Except Abort Int64 :=
  if Int64.minValue.toInt ≤ a + b ∧ a + b ≤ Int64.maxValue.toInt then .ok (Int64.ofInt (a + b))
  else .error .addOverflow

/-- The product of two counts, unless it is no count. -/
def checkedMul (a b : Nat) : Except Abort Nat :=
  if a * b < UInt64.size then .ok (a * b) else .error .mulOverflow

namespace Batch

/-- The text of every row that is not given another. -/
def defaultMessage : String := "Hello, World!"

/-- The largest number of ids that fit into memory, in eight bytes each. -/
def idLimit : Nat := UInt64.size / 16

/-- The largest number of texts that fit into memory, in sixteen bytes each. -/
def textLimit : Nat := UInt64.size / 32

/-- The largest number of bytes that all texts of a column have together, since their places are
32-bit signed integers.  The users of a batch never have more: there are too few days. -/
def columnLimit : Nat := Int32.size / 2 - 1

/-- The ids `start`, `start + 1`, … of a batch of `count` rows. -/
def ids (start : Int64) (count : Nat) : Except Abort (List Int64) :=
  if idLimit ≤ count then .error .internal
  else (List.range count).mapM fun (i : Nat) => checkedAdd start.toInt i

/-- The instants of a batch in microseconds: row `i` lies `i` days before `start`. -/
def stamps (start : Instant) (count : Nat) : Except SettingsFault (List Int) :=
  (List.range count).mapM fun i =>
    match start.daysBefore? i with
    | some t => .ok t.micros
    | none => .error (.rowOutOfRange i)

/-- The row of a batch with the given id and instant. -/
def row (message : String) (id : Int64) (stamp : Int) : Row where
  id := id
  message := message
  lastModified := stamp
  user := Row.userLabel id

/-- A batch of `count` rows with ids from `start` on.  The ids are made before the instants, so a
batch with both defects overflows, and the columns last. -/
def generate (start : Int64) (count : Nat) (time : Instant) (message : String) :
    Except Failure (List Row) := do
  let ids ← (ids start count).mapError Failure.abort
  if textLimit ≤ count then throw (.abort .internal)
  let stamps ← (stamps time count).mapError Failure.settings
  if columnLimit < count * message.utf8ByteSize then throw (.abort .internal)
  return List.zipWith (row message) ids stamps

end Batch

/-- How many batches a run appends, and how many rows each has. -/
structure BatchPlan where
  batches : UInt64
  rowsPerBatch : UInt64
  batches_ne_zero : batches ≠ 0 := by decide
  rowsPerBatch_ne_zero : rowsPerBatch ≠ 0 := by decide
  deriving DecidableEq, Repr

namespace BatchPlan

/-- A plan needs at least one batch and, looked at second, at least one row in each. -/
def ofCounts (batches rowsPerBatch : UInt64) : Except SettingsFault BatchPlan :=
  if hb : batches = 0 then .error .noBatches
  else if hr : rowsPerBatch = 0 then .error .noRows
  else .ok ⟨batches, rowsPerBatch, hb, hr⟩

/-- The first id of batch `b`: one more than the number of rows before it, which is read as a
64-bit signed integer. -/
def start (plan : BatchPlan) (b : Nat) : Except Abort Int64 := do
  let before ← checkedMul b plan.rowsPerBatch.toNat
  checkedAdd 1 (Int64.ofNat before).toInt

/-- The first id of each batch. -/
def starts (plan : BatchPlan) : Except Abort (List Int64) :=
  if Batch.idLimit ≤ plan.batches.toNat then .error .internal
  else (List.range plan.batches.toNat).mapM plan.start

/-- The number of rows of all batches together. -/
def totalRows (plan : BatchPlan) : Except Abort Nat :=
  checkedMul plan.batches.toNat plan.rowsPerBatch.toNat

/-- The plan of a run that is given no other: two batches of three rows. -/
def standard : BatchPlan where
  batches := 2
  rowsPerBatch := 3

end BatchPlan

end LogTable
