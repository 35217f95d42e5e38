import LogTable.Batch
import LogTable.Proofs.Traversal
import Mathlib.Data.List.Range
import Mathlib.Tactic.Ring

/-!
# Ids of generated batches

The first id of a batch is made by a checked product, a cast that wraps around and a checked sum,
and the other ids by further checked sums.  A plan whose batches can all be made is never touched by
the wrapping: `exact_of_lastId` shows that a batch which follows exact ones is exact itself, and by
induction over the batches the ids are `1, 2, …` up to the number of rows of the plan.
-/

namespace LogTable

/-! ### Checked arithmetic -/

/-- A checked sum succeeds with the id that is the sum. -/
theorem checkedAdd_eq_ok_iff {a b : Int} {n : Int64} :
    checkedAdd a b = .ok n ↔ n.toInt = a + b := by
  unfold checkedAdd
  constructor
  · intro h
    split_ifs at h with hrange
    cases h
    rw [Int64.toInt_minValue, Int64.toInt_maxValue] at hrange
    exact Int64.toInt_ofInt_of_le hrange.1 (by omega)
  · intro h
    have hlow := n.le_toInt
    have hhigh := n.toInt_lt
    rw [if_pos ⟨by rw [Int64.toInt_minValue]; omega, by rw [Int64.toInt_maxValue]; omega⟩, ← h,
      Int64.ofInt_toInt]

/-- A checked product succeeds with the product, if that is a count. -/
theorem checkedMul_eq_ok_iff {a b n : Nat} :
    checkedMul a b = .ok n ↔ a * b < 2 ^ 64 ∧ n = a * b := by
  unfold checkedMul
  rw [UInt64.size]
  split_ifs with h
  · rw [Except.ok.injEq, eq_comm]
    exact ⟨fun hn => ⟨h, hn⟩, And.right⟩
  · exact ⟨nofun, fun hn => absurd hn.1 h⟩

namespace Batch

/-- The ids of a batch can be made exactly if they fit into memory and each is an id. -/
theorem ids_eq_ok_iff {start : Int64} {count : Nat} {l : List Int64} :
    ids start count = .ok l ↔
      count < idLimit ∧
        l.map Int64.toInt = (List.range count).map fun i : Nat => start.toInt + i := by
  unfold ids
  split_ifs with h
  · simp [Nat.not_lt.mpr h]
  · simp only [mapM_eq_ok_iff, checkedAdd_eq_ok_iff, Nat.not_le.mp h, true_and]
    rw [← List.forall₂_eq_eq_eq, List.forall₂_map_left_iff, List.forall₂_map_right_iff]
    constructor
    · exact fun hall => hall.flip
    · exact fun hall => hall.flip

/-- Making ids overflows only if an id is out of range. -/
theorem isOverflow_of_ids_eq_error {start : Int64} {count : Nat} {abort : Abort}
    (h : ids start count = .error abort) (hover : abort.isOverflow) :
    ∃ i < count, 2 ^ 63 ≤ start.toInt + i := by
  unfold ids at h
  split_ifs at h with hlimit
  · cases h
    cases hover
  · obtain ⟨i, hi, hadd⟩ := exists_of_mapM_eq_error h
    refine ⟨i, List.mem_range.mp hi, ?_⟩
    unfold checkedAdd at hadd
    rw [Int64.toInt_minValue, Int64.toInt_maxValue] at hadd
    split_ifs at hadd with hrange
    have := start.le_toInt
    omega

/-- What a batch comes to, by what its ids and its instants come to.  Ids that cannot be made come
first, then the memory for the texts, then the instants and last the size of the columns. -/
inductive Generated (start : Int64) (count : Nat) (time : Instant) (message : String) :
    Except Failure (List Row) → Prop
  | noIds {abort : Abort} (hids : ids start count = .error abort) :
    Generated start count time message (.error (.abort abort))
  | tooMany {l : List Int64} (hids : ids start count = .ok l) (hlimit : textLimit ≤ count) :
    Generated start count time message (.error (.abort .internal))
  | noStamps {l : List Int64} {fault : SettingsFault} (hids : ids start count = .ok l)
      (hlimit : count < textLimit) (hstamps : stamps time count = .error fault) :
    Generated start count time message (.error (.settings fault))
  | tooLong {l : List Int64} {m : List Int} (hids : ids start count = .ok l)
      (hlimit : count < textLimit) (hstamps : stamps time count = .ok m)
      (hlong : columnLimit < count * message.utf8ByteSize) :
    Generated start count time message (.error (.abort .internal))
  | rows {l : List Int64} {m : List Int} (hids : ids start count = .ok l)
      (hlimit : count < textLimit) (hstamps : stamps time count = .ok m)
      (hfits : count * message.utf8ByteSize ≤ columnLimit) :
    Generated start count time message (.ok (List.zipWith (row message) l m))

theorem generated (start : Int64) (count : Nat) (time : Instant) (message : String) :
    Generated start count time message (generate start count time message) := by
  unfold generate
  cases hids : ids start count with
  | error abort => exact .noIds hids
  | ok l =>
    simp only [Except.mapError, bind, Except.bind]
    by_cases hlimit : textLimit ≤ count
    · rw [if_pos hlimit]
      exact .tooMany hids hlimit
    · rw [if_neg hlimit]
      have hlimit := Nat.lt_of_not_ge hlimit
      cases hstamps : stamps time count with
      | error fault => exact .noStamps hids hlimit hstamps
      | ok m =>
        by_cases hlong : columnLimit < count * message.utf8ByteSize
        · simp only [if_pos hlong]
          exact .tooLong hids hlimit hstamps hlong
        · simp only [if_neg hlong]
          exact .rows hids hlimit hstamps (Nat.le_of_not_lt hlong)

/-- A generated batch has the ids made for it, in order, and one row for each. -/
theorem ids_of_generate {start : Int64} {count : Nat} {time : Instant} {message : String}
    {rows : List Row} (h : generate start count time message = .ok rows) :
    ids start count = .ok (rows.map Row.id) := by
  cases h ▸ generated start count time message with
  | @rows l m hids hlimit hstamps hfits =>
    have hlength : l.length = count := by
      simpa using congrArg List.length (ids_eq_ok_iff.mp hids).2
    have hm : m.length = count := by
      simpa using (mapM_eq_ok_iff.mp hstamps).length_eq.symm
    rw [hids, List.map_zipWith]
    congr 1
    refine List.ext_getElem (by simp [hlength, hm]) fun i hi hi' => ?_
    simp [row]

/-- A batch overflows only in its ids. -/
theorem ids_eq_error_of_generate {start : Int64} {count : Nat} {time : Instant} {message : String}
    {abort : Abort} (h : generate start count time message = .error (.abort abort))
    (hover : abort.isOverflow) : ids start count = .error abort := by
  cases h ▸ generated start count time message with
  | noIds hids => exact hids
  | tooMany hids hlimit => cases hover
  | tooLong hids hlimit hstamps hlong => cases hover

/-- A generated batch has as many rows as were asked for. -/
theorem length_of_generate {start : Int64} {count : Nat} {time : Instant} {message : String}
    {rows : List Row} (h : generate start count time message = .ok rows) :
    rows.length = count := by
  simpa using congrArg List.length (ids_eq_ok_iff.mp (ids_of_generate h)).2

end Batch

namespace BatchPlan

/-- A plan has at least one row in each batch. -/
theorem batches_pos (plan : BatchPlan) : 0 < plan.batches.toNat := by
  refine Nat.pos_of_ne_zero fun h => plan.batches_ne_zero ?_
  exact UInt64.toNat_inj.mp h

theorem rowsPerBatch_pos (plan : BatchPlan) : 0 < plan.rowsPerBatch.toNat := by
  refine Nat.pos_of_ne_zero fun h => plan.rowsPerBatch_ne_zero ?_
  exact UInt64.toNat_inj.mp h

/-- A plan has one first id for each batch. -/
theorem length_of_starts {plan : BatchPlan} {starts : List Int64} (h : plan.starts = .ok starts) :
    starts.length = plan.batches.toNat := by
  unfold BatchPlan.starts at h
  split_ifs at h
  rw [← (mapM_eq_ok_iff.mp h).length_eq, List.length_range]

theorem exists_cons_of_starts {plan : BatchPlan} {starts : List Int64}
    (h : plan.starts = .ok starts) : ∃ first rest, starts = first :: rest := by
  refine List.exists_cons_of_length_pos ?_
  rw [length_of_starts h]
  exact plan.batches_pos

/-- The first id of a batch is one more than the wrapped number of rows before it. -/
theorem start_eq_ok_iff {plan : BatchPlan} {b : Nat} {s : Int64} :
    plan.start b = .ok s ↔
      b * plan.rowsPerBatch.toNat < 2 ^ 64 ∧
        s.toInt = 1 + (Int64.ofNat (b * plan.rowsPerBatch.toNat)).toInt := by
  unfold start
  cases hmul : checkedMul b plan.rowsPerBatch.toNat with
  | error abort =>
    have hbound : ¬ b * plan.rowsPerBatch.toNat < 2 ^ 64 := fun h => by
      rw [checkedMul_eq_ok_iff.mpr ⟨h, rfl⟩] at hmul
      cases hmul
    simp only [bind, Except.bind, hbound, false_and, reduceCtorEq]
  | ok n =>
    obtain ⟨hbound, rfl⟩ := checkedMul_eq_ok_iff.mp hmul
    simp only [bind, Except.bind, checkedAdd_eq_ok_iff, hbound, true_and]

/-- As long as the number of rows before a batch and one more is an id, nothing wraps. -/
theorem toInt_start {plan : BatchPlan} {b : Nat} {s : Int64} (h : plan.start b = .ok s)
    (hb : b * plan.rowsPerBatch.toNat < 2 ^ 63) :
    s.toInt = (b * plan.rowsPerBatch.toNat + 1 : Nat) := by
  rw [(start_eq_ok_iff.mp h).2, Int64.toInt_ofNat_of_lt hb]
  push_cast
  ring

/-- A batch whose rows all get ids is numbered on from the rows before it, and these rows and its
own together are not too many for ids. -/
theorem exact_of_lastId {plan : BatchPlan} {b : Nat} {s : Int64} {l : List Int64}
    (hb : b * plan.rowsPerBatch.toNat < 2 ^ 63) (hs : plan.start b = .ok s)
    (hl : Batch.ids s plan.rowsPerBatch.toNat = .ok l) :
    (b + 1) * plan.rowsPerBatch.toNat < 2 ^ 63 ∧
      l.map Int64.toInt =
        (List.range' (b * plan.rowsPerBatch.toNat + 1) plan.rowsPerBatch.toNat).map Nat.cast := by
  have hids := (Batch.ids_eq_ok_iff.mp hl).2
  rw [toInt_start hs hb] at hids
  constructor
  · -- the last of the ids is the number of rows up to the end of the batch
    have hpos := plan.rowsPerBatch_pos
    have hmem : ((b + 1) * plan.rowsPerBatch.toNat : Int) ∈ l.map Int64.toInt := by
      rw [hids]
      refine List.mem_map.mpr ⟨plan.rowsPerBatch.toNat - 1, List.mem_range.mpr (by omega), ?_⟩
      push_cast [Nat.cast_sub hpos]
      ring
    obtain ⟨n, -, hn⟩ := List.mem_map.mp hmem
    have hlt := n.toInt_lt
    rw [hn] at hlt
    exact_mod_cast hlt
  · rw [hids, List.range'_eq_map_range, List.map_map]
    refine List.map_congr_left fun i _ => ?_
    simp

/-- Batches that can all be made, the first of them after rows that are exactly numbered, are
numbered on without a gap. -/
theorem exact_of_batches (plan : BatchPlan) {batches : List (List Row)} {b n : Nat}
    (hb : b * plan.rowsPerBatch.toNat < 2 ^ 63)
    (h : List.Forall₂ (fun k batch => ∃ s, plan.start k = .ok s ∧
      Batch.ids s plan.rowsPerBatch.toNat = .ok (batch.map Row.id)) (List.range' b n) batches) :
    (b + n) * plan.rowsPerBatch.toNat < 2 ^ 63 ∧
      batches.flatten.map (fun row => row.id.toInt) =
        (List.range' (b * plan.rowsPerBatch.toNat + 1) (n * plan.rowsPerBatch.toNat)).map
          Nat.cast := by
  induction n generalizing b batches with
  | zero =>
    cases h
    simpa using hb
  | succ n ih =>
    rw [List.range'_succ] at h
    obtain ⟨batch, rest, ⟨s, hs, hl⟩, hrest, rfl⟩ := List.forall₂_cons_left_iff.mp h
    obtain ⟨hnext, hbatch⟩ := exact_of_lastId hb hs hl
    obtain ⟨hall, hids⟩ := ih hnext hrest
    refine ⟨by rwa [Nat.add_assoc, Nat.add_comm 1 n] at hall, ?_⟩
    rw [List.map_map] at hbatch
    have hsplit : (b + 1) * plan.rowsPerBatch.toNat + 1 =
        b * plan.rowsPerBatch.toNat + 1 + plan.rowsPerBatch.toNat := by ring
    rw [List.flatten_cons, List.map_append, hids, hsplit]
    change batch.map (Int64.toInt ∘ Row.id) ++ _ = _
    rw [hbatch, ← List.map_append, List.range'_append_1, Nat.succ_mul, Nat.add_comm (n * _)]

/-- While the rows of a plan are not too many for ids, the first id of each batch can be made, and
no id of the batch overflows. -/
theorem not_isOverflow_of_le {plan : BatchPlan} {b : Nat}
    (hb : (b + 1) * plan.rowsPerBatch.toNat < 2 ^ 63) :
    ∃ s, plan.start b = .ok s ∧ ∀ abort,
      Batch.ids s plan.rowsPerBatch.toNat = .error abort → abort.isOverflow = false := by
  have hpos := plan.rowsPerBatch_pos
  rw [Nat.succ_mul] at hb
  obtain ⟨s, hs⟩ : ∃ s, plan.start b = .ok s := by
    refine ⟨Int64.ofInt (b * plan.rowsPerBatch.toNat + 1 : Nat), start_eq_ok_iff.mpr ⟨?_, ?_⟩⟩
    · omega
    · rw [Int64.toInt_ofInt_of_le (by omega) (by omega), Int64.toInt_ofNat_of_lt (by omega)]
      push_cast
      ring
  refine ⟨s, hs, fun abort habort => ?_⟩
  by_contra hover
  obtain ⟨i, hi, hlarge⟩ := Batch.isOverflow_of_ids_eq_error habort (by simpa using hover)
  rw [toInt_start hs (by omega)] at hlarge
  push_cast at hlarge
  omega

/-- The batches of a plan that can all be made, at any times and with any messages, have exactly the
ids from one to the number of rows of the plan, and this number is counted without overflow.  No
plan with so few rows overflows: not in the first ids, not in the number of rows and not in the ids
of a batch. -/
theorem ids_exact (plan : BatchPlan) :
    (∀ (starts : List Int64) (batches : List (List Row)), plan.starts = .ok starts →
      List.Forall₂ (fun start batch => ∃ time message,
        Batch.generate start plan.rowsPerBatch.toNat time message = .ok batch) starts batches →
      plan.batches.toNat * plan.rowsPerBatch.toNat ≤ 2 ^ 63 - 1 ∧
        plan.totalRows = .ok (plan.batches.toNat * plan.rowsPerBatch.toNat) ∧
        batches.flatten.map (fun row => row.id.toInt) =
          (List.range' 1 (plan.batches.toNat * plan.rowsPerBatch.toNat)).map Nat.cast) ∧
    (plan.batches.toNat * plan.rowsPerBatch.toNat ≤ 2 ^ 63 - 1 →
      (∀ abort, plan.starts = .error abort → abort.isOverflow = false) ∧
        plan.totalRows = .ok (plan.batches.toNat * plan.rowsPerBatch.toNat) ∧
        ∀ b < plan.batches.toNat, ∃ start, plan.start b = .ok start ∧
          ∀ time message abort,
            Batch.generate start plan.rowsPerBatch.toNat time message = .error (.abort abort) →
            abort.isOverflow = false) := by
  constructor
  · intro starts batches hstarts hbatches
    unfold BatchPlan.starts at hstarts
    split_ifs at hstarts
    have hall := forall₂_comp (mapM_eq_ok_iff.mp hstarts) hbatches
    rw [List.range_eq_range'] at hall
    have hexact := exact_of_batches plan (by simp) (hall.imp
      fun k batch ⟨s, hs, time, message, hbatch⟩ => ⟨s, hs, Batch.ids_of_generate hbatch⟩)
    simp only [Nat.zero_add, Nat.zero_mul] at hexact
    refine ⟨Nat.le_pred_of_lt hexact.1, checkedMul_eq_ok_iff.mpr ⟨?_, rfl⟩, hexact.2⟩
    exact hexact.1.trans (by decide)
  · intro hle
    have hstart : ∀ b < plan.batches.toNat, (b + 1) * plan.rowsPerBatch.toNat < 2 ^ 63 :=
      fun b hb => (Nat.mul_le_mul_right _ hb).trans_lt (Nat.lt_of_le_pred (by decide) hle)
    refine ⟨fun abort habort => ?_, checkedMul_eq_ok_iff.mpr ⟨by omega, rfl⟩, fun b hb => ?_⟩
    · unfold BatchPlan.starts at habort
      split_ifs at habort
      · cases habort
        rfl
      · obtain ⟨b, hb, hfault⟩ := exists_of_mapM_eq_error habort
        obtain ⟨s, hs, -⟩ := not_isOverflow_of_le (hstart b (List.mem_range.mp hb))
        rw [hs] at hfault
        cases hfault
    · obtain ⟨s, hs, hids⟩ := not_isOverflow_of_le (hstart b hb)
      refine ⟨s, hs, fun time message abort habort => ?_⟩
      by_contra hover
      rw [Bool.not_eq_false] at hover
      exact absurd (hids abort (Batch.ids_eq_error_of_generate habort hover)) (by simp [hover])

end BatchPlan

end LogTable
