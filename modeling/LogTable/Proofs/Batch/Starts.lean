import LogTable.Proofs.Batch.Outcome

/-!
# First ids of batches

When the first ids of the batches of a plan overflow, and what they are otherwise.  The number of
rows before a batch is a checked product, which is then read as a 64-bit signed integer
(`bmod_count`), and one is added with a check.  A product that overflows comes after every sum that
does, because the products grow from batch to batch, so the kind of the overflow depends only on
whether some sum overflows.  Main statement: `BatchPlan.starts_outcome`.
-/

namespace LogTable

/-- A count in the lower half of its range reads as itself, and one in the upper half as a negative
number. -/
theorem bmod_count {n : Nat} (h : n < 2 ^ 64) :
    Int.bmod n (2 ^ 64) = if n < 2 ^ 63 then (n : Int) else n - 2 ^ 64 := by
  have hmod : (n : Int) % (2 ^ 64 : Nat) = n := Int.emod_eq_of_lt (by omega) (by omega)
  rw [Int.bmod_def, hmod]
  split_ifs <;> omega

/-- Different counts read as different numbers. -/
theorem bmod_count_inj {m n : Nat} (hm : m < 2 ^ 64) (hn : n < 2 ^ 64)
    (h : Int.bmod m (2 ^ 64) = Int.bmod n (2 ^ 64)) : m = n := by
  rw [bmod_count hm, bmod_count hn] at h
  split_ifs at h <;> omega

/-- A product overflows exactly if it is no count. -/
theorem checkedMul_eq_error_iff {a b : Nat} {abort : Abort} :
    checkedMul a b = .error abort ↔ 2 ^ 64 ≤ a * b ∧ abort = .mulOverflow := by
  unfold checkedMul UInt64.size
  split_ifs with h
  · exact ⟨nofun, fun herror => absurd herror.1 (Nat.not_le.mpr h)⟩
  · rw [Except.error.injEq, eq_comm]
    exact ⟨fun habort => ⟨Nat.not_lt.mp h, habort⟩, And.right⟩

namespace BatchPlan

variable {plan : BatchPlan}

/-! ### One first id -/

/-- The first id of a batch, if it can be made, is one more than what the number of rows before the
batch reads as. -/
theorem toInt_of_start {b : Nat} {s : Int64} (h : plan.start b = .ok s) :
    s.toInt = 1 + Int.bmod (b * plan.rowsPerBatch.toNat : Nat) (2 ^ 64) := by
  rw [(start_eq_ok_iff.mp h).2, Int64.toInt_ofNat']
  rfl

/-- The first id of a batch can be made unless the rows before it are too many to be counted, or
just one too few to read as a negative number. -/
theorem exists_start {b : Nat} (hcount : b * plan.rowsPerBatch.toNat < 2 ^ 64)
    (hne : b * plan.rowsPerBatch.toNat ≠ 2 ^ 63 - 1) : ∃ s, plan.start b = .ok s := by
  have hwrapped := bmod_count hcount
  refine ⟨.ofInt (1 + Int.bmod (b * plan.rowsPerBatch.toNat : Nat) (2 ^ 64)),
    start_eq_ok_iff.mpr ⟨hcount, ?_⟩⟩
  rw [Int64.toInt_ofNat', show Int64.size = 2 ^ 64 from rfl]
  refine Int64.toInt_ofInt_of_le ?_ ?_ <;> split_ifs at hwrapped <;> omega

/-- The sum overflows exactly if the rows before the batch are as many as the largest id. -/
theorem start_eq_addOverflow_iff {b : Nat} :
    plan.start b = .error .addOverflow ↔ b * plan.rowsPerBatch.toNat = 2 ^ 63 - 1 := by
  constructor
  · intro h
    by_contra hne
    rcases Nat.lt_or_ge (b * plan.rowsPerBatch.toNat) (2 ^ 64) with hcount | hlarge
    · obtain ⟨s, hs⟩ := exists_start hcount hne
      cases hs.symm.trans h
    · unfold start at h
      rw [checkedMul_eq_error_iff.mpr ⟨hlarge, rfl⟩] at h
      cases h
  · intro h
    unfold start
    rw [checkedMul_eq_ok_iff.mpr ⟨by omega, rfl⟩, h]
    rfl

/-- The product overflows exactly if the rows before the batch are too many to be counted. -/
theorem start_eq_mulOverflow_iff {b : Nat} :
    plan.start b = .error .mulOverflow ↔ 2 ^ 64 ≤ b * plan.rowsPerBatch.toNat := by
  unfold start
  cases hmul : checkedMul b plan.rowsPerBatch.toNat with
  | error abort =>
    obtain ⟨hlarge, rfl⟩ := checkedMul_eq_error_iff.mp hmul
    exact ⟨fun _ => hlarge, fun _ => rfl⟩
  | ok before =>
    have hcount := (checkedMul_eq_ok_iff.mp hmul).1
    refine ⟨fun h => ?_, fun hlarge => absurd hcount (Nat.not_lt.mpr hlarge)⟩
    cases eq_addOverflow_of_checkedAdd h

/-! ### All first ids -/

/-- The first ids overflow with the first batch whose first id does. -/
theorem starts_eq_error (hlimit : plan.batches.toNat < Batch.idLimit) {k : Nat}
    (hk : k < plan.batches.toNat) {abort : Abort} (hfront : ∀ i < k, ∃ s, plan.start i = .ok s)
    (habort : plan.start k = .error abort) : plan.starts = .error abort := by
  unfold starts
  rw [if_neg (Nat.not_le.mpr hlimit)]
  exact mapM_range_eq_error hk hfront habort

/-- An overflow of the first ids is one of a batch. -/
theorem exists_of_starts_eq_error (hlimit : plan.batches.toNat < Batch.idLimit) {abort : Abort}
    (h : plan.starts = .error abort) : ∃ k < plan.batches.toNat, plan.start k = .error abort := by
  unfold starts at h
  rw [if_neg (Nat.not_le.mpr hlimit)] at h
  obtain ⟨k, hk, habort⟩ := exists_of_mapM_eq_error h
  exact ⟨k, List.mem_range.mp hk, habort⟩

/-- The rows before a batch are no more than those before the last one. -/
theorem mul_rowsPerBatch_le (plan : BatchPlan) {k : Nat} (hk : k < plan.batches.toNat) :
    k * plan.rowsPerBatch.toNat ≤ (plan.batches.toNat - 1) * plan.rowsPerBatch.toNat :=
  Nat.mul_le_mul_right _ (by omega)

/-- A sum overflows exactly if the rows before some batch are as many as the largest id. -/
theorem starts_eq_addOverflow_iff (hlimit : plan.batches.toNat < Batch.idLimit) :
    plan.starts = .error .addOverflow ↔
      ∃ k < plan.batches.toNat, k * plan.rowsPerBatch.toNat = 2 ^ 63 - 1 := by
  constructor
  · intro h
    obtain ⟨k, hk, habort⟩ := exists_of_starts_eq_error hlimit h
    exact ⟨k, hk, start_eq_addOverflow_iff.mp habort⟩
  · rintro ⟨k, hk, hlargest⟩
    refine starts_eq_error hlimit hk (fun i hi => ?_) (start_eq_addOverflow_iff.mpr hlargest)
    have hless := Nat.mul_lt_mul_of_pos_right hi plan.rowsPerBatch_pos
    exact exists_start (by omega) (by omega)

/-- Where no sum overflows, a product does exactly if the rows before the last batch are too many to
be counted. -/
theorem starts_eq_mulOverflow_iff (hlimit : plan.batches.toNat < Batch.idLimit)
    (hsum : ¬ ∃ k < plan.batches.toNat, k * plan.rowsPerBatch.toNat = 2 ^ 63 - 1) :
    plan.starts = .error .mulOverflow ↔
      2 ^ 64 ≤ (plan.batches.toNat - 1) * plan.rowsPerBatch.toNat := by
  constructor
  · intro h
    obtain ⟨k, hk, habort⟩ := exists_of_starts_eq_error hlimit h
    exact (start_eq_mulOverflow_iff.mp habort).trans (plan.mul_rowsPerBatch_le hk)
  · intro hlarge
    -- the first batch before which there are too many rows decides
    have hexists : ∃ k, 2 ^ 64 ≤ k * plan.rowsPerBatch.toNat := ⟨_, hlarge⟩
    have hfind : Nat.find hexists < plan.batches.toNat := by
      have hle := Nat.find_min' hexists hlarge
      have hpos := plan.batches_pos
      omega
    refine starts_eq_error hlimit hfind (fun i hi => ?_)
      (start_eq_mulOverflow_iff.mpr (Nat.find_spec hexists))
    have hcount := Nat.not_le.mp (Nat.find_min hexists hi)
    exact exists_start hcount fun hlargest => hsum ⟨i, hi.trans hfind, hlargest⟩

/-- Where neither a sum nor a product overflows, the first ids can be made. -/
theorem exists_starts (hlimit : plan.batches.toNat < Batch.idLimit)
    (hsum : ¬ ∃ k < plan.batches.toNat, k * plan.rowsPerBatch.toNat = 2 ^ 63 - 1)
    (hcount : (plan.batches.toNat - 1) * plan.rowsPerBatch.toNat < 2 ^ 64) :
    ∃ starts, plan.starts = .ok starts := by
  cases hstarts : plan.starts with
  | ok starts => exact ⟨starts, rfl⟩
  | error abort =>
    obtain ⟨k, hk, habort⟩ := exists_of_starts_eq_error hlimit hstarts
    obtain ⟨s, hs⟩ := exists_start ((plan.mul_rowsPerBatch_le hk).trans_lt hcount)
      fun hlargest => hsum ⟨k, hk, hlargest⟩
    cases hs.symm.trans habort

section Starts

variable {starts : List Int64}

/-- The first ids in order are the first ids of the batches. -/
theorem start_of_starts (h : plan.starts = .ok starts) {k : Nat} (hk : k < starts.length) :
    plan.start k = .ok starts[k] := by
  unfold BatchPlan.starts at h
  split_ifs at h
  have hstart := (List.forall₂_iff_get.mp (mapM_eq_ok_iff.mp h)).2 k
    (by rw [(mapM_eq_ok_iff.mp h).length_eq]; exact hk) hk
  simpa using hstart

/-- No two batches have the same first id. -/
theorem nodup_of_starts (h : plan.starts = .ok starts) : starts.Nodup := by
  refine List.pairwise_iff_getElem.mpr fun i j hi hj hij hsame => ?_
  have hfirst := start_of_starts h hi
  have hsecond := start_of_starts h hj
  have hvalue := toInt_of_start hfirst
  rw [hsame, toInt_of_start hsecond, add_right_inj] at hvalue
  have hrows := bmod_count_inj (start_eq_ok_iff.mp hsecond).1 (start_eq_ok_iff.mp hfirst).1 hvalue
  exact hij.ne' (Nat.eq_of_mul_eq_mul_right plan.rowsPerBatch_pos hrows)

/-- The first ids go up exactly if the rows before the last batch are fewer than the largest id. -/
theorem pairwise_of_starts_iff (h : plan.starts = .ok starts) :
    starts.Pairwise (· < ·) ↔
      (plan.batches.toNat - 1) * plan.rowsPerBatch.toNat < 2 ^ 63 - 1 := by
  have hlength := length_of_starts h
  have hpos := plan.batches_pos
  rw [List.pairwise_iff_getElem]
  constructor
  · -- the first of the ids is one, and the last one would be negative or zero
    intro hup
    by_contra hlarge
    have hfirst := start_of_starts h (show 0 < starts.length by omega)
    have hlast := start_of_starts h (show plan.batches.toNat - 1 < starts.length by omega)
    have hnot := mt start_eq_addOverflow_iff.mpr
      (show plan.start (plan.batches.toNat - 1) ≠ .error .addOverflow by rw [hlast]; nofun)
    have hcount := (start_eq_ok_iff.mp hlast).1
    have hone := toInt_of_start hfirst
    have hvalue := toInt_of_start hlast
    rw [bmod_count hcount, if_neg (by omega)] at hvalue
    rw [Nat.zero_mul] at hone
    have hless := hup 0 (plan.batches.toNat - 1) (by omega) (by omega) (by
      refine Nat.pos_of_ne_zero fun hzero => ?_
      rw [hzero, Nat.zero_mul] at hlarge
      omega)
    rw [Int64.lt_iff_toInt_lt, hone, hvalue] at hless
    simp only [Nat.cast_zero, Int.zero_bmod] at hless
    omega
  · intro hsmall i j hi hj hij
    have hless := Nat.mul_lt_mul_of_pos_right hij plan.rowsPerBatch_pos
    have hbound := plan.mul_rowsPerBatch_le (hlength ▸ hj)
    rw [Int64.lt_iff_toInt_lt, toInt_start (start_of_starts h hi) (by omega),
      toInt_start (start_of_starts h hj) (by omega)]
    omega

end Starts

/-- What the first ids and the number of rows of a plan come to, as long as there is memory for the
first ids.  A sum overflows exactly if the rows before some batch are as many as the largest id.
Otherwise a product overflows exactly if the rows before the last batch are too many to be counted.
Otherwise there is a first id for each batch, one more than what the number of rows before it reads
as in two's complement; no two are the same, and they go up exactly if no number of rows reads as a
negative number.  The number of rows overflows exactly if it is too large to be counted. -/
theorem starts_outcome (plan : BatchPlan) (hbatches : plan.batches.toNat < 2 ^ 60) :
    let b := plan.batches.toNat
    let r := plan.rowsPerBatch.toNat
    (plan.starts = .error .addOverflow ↔ ∃ k < b, k * r = 2 ^ 63 - 1) ∧
    ((¬ ∃ k < b, k * r = 2 ^ 63 - 1) →
      (plan.starts = .error .mulOverflow ↔ 2 ^ 64 ≤ (b - 1) * r) ∧
      ((b - 1) * r < 2 ^ 64 → ∃ starts, plan.starts = .ok starts ∧ starts.length = b ∧
        (∀ (k : Nat) (hk : k < starts.length),
          starts[k].toInt = 1 + Int.bmod (k * r : Nat) (2 ^ 64)) ∧
        starts.Nodup ∧
        (starts.Pairwise (· < ·) ↔ (b - 1) * r < 2 ^ 63 - 1))) ∧
    ((∃ abort, plan.totalRows = .error abort) ↔ 2 ^ 64 ≤ b * r) ∧
    (b * r < 2 ^ 64 → plan.totalRows = .ok (b * r)) ∧
    Abort.addOverflow.message = "attempt to add with overflow" ∧
    Abort.mulOverflow.message = "attempt to multiply with overflow" := by
  intro b r
  have hlimit : plan.batches.toNat < Batch.idLimit := hbatches
  refine ⟨starts_eq_addOverflow_iff hlimit, fun hsum =>
    ⟨starts_eq_mulOverflow_iff hlimit hsum, fun hcount => ?_⟩, ?_, ?_, rfl, rfl⟩
  · obtain ⟨starts, hstarts⟩ := exists_starts hlimit hsum hcount
    exact ⟨starts, hstarts, length_of_starts hstarts,
      fun k hk => toInt_of_start (start_of_starts hstarts hk), nodup_of_starts hstarts,
      pairwise_of_starts_iff hstarts⟩
  · exact ⟨fun ⟨_, h⟩ => (checkedMul_eq_error_iff.mp h).1,
      fun hlarge => ⟨_, checkedMul_eq_error_iff.mpr ⟨hlarge, rfl⟩⟩⟩
  · exact fun hcount => checkedMul_eq_ok_iff.mpr ⟨hcount, rfl⟩

/-- With three batches of `2 ^ 62` rows the last first id is negative, with five a product
overflows, and with two batches of `2 ^ 63 - 1` rows a sum does. -/
theorem starts_outcome_large :
    let plan : BatchPlan := { batches := 3, rowsPerBatch := 0x4000000000000000 }
    let longer : BatchPlan := { batches := 5, rowsPerBatch := 0x4000000000000000 }
    let largest : BatchPlan := { batches := 2, rowsPerBatch := 0x7fffffffffffffff }
    plan.batches.toNat < 2 ^ 60 ∧ longer.batches.toNat < 2 ^ 60 ∧ largest.batches.toNat < 2 ^ 60 ∧
      (∃ starts, plan.starts = .ok starts ∧ starts.length = 3 ∧
        (∀ s ∈ starts[2]?, s.toInt = 1 - 2 ^ 63) ∧ starts.Nodup ∧ ¬ starts.Pairwise (· < ·)) ∧
      longer.starts = .error .mulOverflow ∧ largest.starts = .error .addOverflow := by
  intro plan longer largest
  obtain ⟨starts, hstarts, hlength, hvalue, hnodup, hup⟩ :=
    ((starts_outcome plan (by decide)).2.1 (by decide)).2 (by decide)
  refine ⟨by decide, by decide, by decide, ⟨starts, hstarts, hlength, fun s hs => ?_, hnodup,
    fun h => absurd (hup.mp h) (by decide)⟩, ?_, ?_⟩
  · obtain ⟨hk, rfl⟩ := List.getElem?_eq_some_iff.mp hs
    rw [hvalue 2 hk]
    decide
  · exact ((starts_outcome longer (by decide)).2.1 (by decide)).1.mpr (by decide)
  · exact (starts_outcome largest (by decide)).1.mpr ⟨1, by decide, by decide⟩

end BatchPlan

end LogTable
