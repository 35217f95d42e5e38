import LogTable.Proofs.Batch.Outcome
import LogTable.Proofs.Table.Partition

/-!
# Groups of generated rows

In how many groups a generated batch is split.  Two rows of a batch have the same id or the same
instant only if they are one row, the same user exactly if they are an even number of rows apart,
and always the same message (`Batch.cell_nth_eq_iff`).  So each row is alike to one of the first
few, which all differ: `Batch.length_groups_of_generate`.
-/

namespace LogTable

/-- If the first `k` of `n` values are all different, and no other value occurs, then `k` values are
left without the repetitions. -/
theorem length_eraseDups_map_range {α : Type} [BEq α] [LawfulBEq α] {f : Nat → α} {n k : Nat}
    (hk : k ≤ n) (hfirst : ∀ i < k, ∀ j < k, f i = f j → i = j)
    (hrest : ∀ i < n, ∃ j < k, f i = f j) : ((List.range n).map f).eraseDups.length = k := by
  have hnodup : ((List.range k).map f).Nodup := by
    refine List.nodup_range.map_on fun i hi j hj => ?_
    exact hfirst i (List.mem_range.mp hi) j (List.mem_range.mp hj)
  have hperm : ((List.range n).map f).eraseDups.Perm ((List.range k).map f) := by
    rw [List.perm_ext_iff_of_nodup (nodup_eraseDups _) hnodup]
    intro a
    simp only [List.mem_eraseDups, List.mem_map, List.mem_range]
    constructor
    · rintro ⟨i, hi, rfl⟩
      obtain ⟨j, hj, hsame⟩ := hrest i hi
      exact ⟨j, hj, hsame.symm⟩
    · rintro ⟨j, hj, rfl⟩
      exact ⟨j, hj.trans_le hk, rfl⟩
  rw [hperm.length_eq, List.length_map, List.length_range]

/-- Users are the same exactly for ids of the same parity. -/
theorem Row.userLabel_eq_iff {a b : Int64} :
    userLabel a = userLabel b ↔ a.toInt % 2 = b.toInt % 2 := by
  rw [userLabel_eq, userLabel_eq]
  split_ifs with ha hb hb
  · exact iff_of_true rfl (ha.trans hb.symm)
  · exact iff_of_false (by decide) (by omega)
  · exact iff_of_false (by decide) (by omega)
  · exact iff_of_true rfl (by omega)

/-- Rows have the same values in some columns exactly if they have in each. -/
theorem Partition.valuesOf_eq_iff {columns : List Column} {a b : Row} :
    valuesOf columns a = valuesOf columns b ↔
      ∀ column ∈ columns, a.cell column = b.cell column := by
  simp [valuesOf, List.map_inj_left]

namespace Batch

variable {start : Int64} {count : Nat} {time : Instant} {message : String}

/-- The row of a batch that has `i` rows before it. -/
def nth (start : Int64) (time : Instant) (message : String) (i : Nat) : Row :=
  row message (.ofInt (start.toInt + i)) (time.micros - i * Civil.microsPerDay)

/-- The instants of a batch, wherever the calendar starts. -/
theorem eq_map_of_stamps {l : List Int} (h : stamps time count = .ok l) :
    l = (List.range count).map fun i : Nat => time.micros - i * Civil.microsPerDay := by
  rw [stamps, mapM_eq_ok_iff] at h
  rw [← List.forall₂_eq_eq_eq, List.forall₂_map_right_iff]
  refine (h.imp fun i stamp hstamp => ?_).flip
  change stamp = time.micros - i * Civil.microsPerDay
  unfold Instant.daysBefore? at hstamp
  simp only at hstamp
  split_ifs at hstamp
  rw [← Except.ok.inj hstamp, Instant.micros_daysBefore]

/-- The rows of a generated batch in order; the sums that are their ids are in range. -/
theorem eq_map_of_generate {rows : List Row} (h : generate start count time message = .ok rows) :
    rows = (List.range count).map (nth start time message) ∧
      ∀ i < count, start.toInt + i < 2 ^ 63 := by
  cases h ▸ generated start count time message with
  | @rows l m hids hlimit hstamps hfits =>
    obtain ⟨-, hsums⟩ := ids_eq_ok_iff.mp hids
    constructor
    · have hl : l = (List.range count).map fun i : Nat => Int64.ofInt (start.toInt + i) := by
        simpa [Function.comp_def] using congrArg (List.map Int64.ofInt) hsums
      rw [hl, eq_map_of_stamps hstamps, List.zipWith_map, List.zipWith_self]
      rfl
    · intro i hi
      have hmem : start.toInt + i ∈ l.map Int64.toInt := by
        rw [hsums]
        exact List.mem_map_of_mem (List.mem_range.mpr hi)
      obtain ⟨id, -, hid⟩ := List.mem_map.mp hmem
      rw [← hid]
      exact id.toInt_lt

/-- When two rows of a batch have the same value in a column. -/
theorem cell_nth_eq_iff {i j : Nat} (hi : start.toInt + i < 2 ^ 63)
    (hj : start.toInt + j < 2 ^ 63) (column : Column) :
    (nth start time message i).cell column = (nth start time message j).cell column ↔
      match column with
      | .id | .lastModified => i = j
      | .user => i % 2 = j % 2
      | .message => True := by
  have hlow := start.le_toInt
  have hid : (Int64.ofInt (start.toInt + i)).toInt = start.toInt + i :=
    Int64.toInt_ofInt_of_le (by omega) (by omega)
  have hid' : (Int64.ofInt (start.toInt + j)).toInt = start.toInt + j :=
    Int64.toInt_ofInt_of_le (by omega) (by omega)
  cases column with
  | id =>
    simp only [nth, row, Row.cell, Cell.int.injEq, ← Int64.toInt_inj, hid, hid']
    omega
  | message => simp [nth, row, Row.cell]
  | lastModified =>
    simp only [nth, row, Row.cell, Cell.time.injEq, Civil.microsPerDay]
    omega
  | user =>
    simp only [nth, row, Row.cell, Cell.text.injEq, Row.userLabel_eq_iff, hid, hid']
    omega

/-- The number of files that a batch of `count` rows makes in a table with the given partition
columns. -/
def fileCount (partitionBy : List String) (count : Nat) : Nat :=
  if "id" ∈ partitionBy ∨ "last_modified" ∈ partitionBy then count
  else if "user" ∈ partitionBy then min count 2
  else 1

theorem mem_map_name_iff (columns : List Column) (column : Column) :
    column.name ∈ columns.map Column.name ↔ column ∈ columns :=
  List.mem_map_of_injective fun _ _ => Column.name_injective

/-- A generated batch has one group for each row if a partition column tells them apart, otherwise
one for each of at most two users if these are kept apart, and otherwise a single one. -/
theorem length_groups_of_generate {rows : List Row}
    (h : generate start count time message = .ok rows) (hpos : 0 < count) (columns : List Column) :
    (Partition.groups columns.eraseDups rows).length =
      fileCount (columns.map Column.name) count := by
  obtain ⟨rfl, hrange⟩ := eq_map_of_generate h
  have hsame : ∀ i < count, ∀ j < count,
      (Partition.valuesOf columns.eraseDups (nth start time message i) =
          Partition.valuesOf columns.eraseDups (nth start time message j) ↔
        ∀ column ∈ columns, match column with
          | .id | .lastModified => i = j
          | .user => i % 2 = j % 2
          | .message => True) := by
    intro i hi j hj
    simp only [Partition.valuesOf_eq_iff, List.mem_eraseDups,
      cell_nth_eq_iff (hrange i hi) (hrange j hj)]
  have hid : "id" ∈ columns.map Column.name ↔ Column.id ∈ columns := mem_map_name_iff columns .id
  have htime : "last_modified" ∈ columns.map Column.name ↔ Column.lastModified ∈ columns :=
    mem_map_name_iff columns .lastModified
  have huser : "user" ∈ columns.map Column.name ↔ Column.user ∈ columns :=
    mem_map_name_iff columns .user
  rw [Partition.groups, List.length_map, List.map_map]
  simp only [fileCount, hid, htime, huser]
  split_ifs with hrows husers
  · refine length_eraseDups_map_range le_rfl (fun i hi j hj heq => ?_) fun i hi => ⟨i, hi, rfl⟩
    rcases hrows with hmem | hmem
    · exact (hsame i hi j hj).mp heq _ hmem
    · exact (hsame i hi j hj).mp heq _ hmem
  · -- the first two rows have different users, and each row has the user of one of these
    refine length_eraseDups_map_range (min_le_left _ _) (fun i hi j hj heq => ?_) fun i hi => ?_
    · have hparity : i % 2 = j % 2 := (hsame i (by omega) j (by omega)).mp heq _ husers
      omega
    · refine ⟨i % 2, by omega, (hsame i hi _ (by omega)).mpr fun column hmem => ?_⟩
      cases column with
      | id => exact absurd (Or.inl hmem) hrows
      | message => trivial
      | lastModified => exact absurd (Or.inr hmem) hrows
      | user => exact (Nat.mod_mod i 2).symm
  · refine length_eraseDups_map_range hpos (by omega) fun i hi => ?_
    refine ⟨0, Nat.one_pos, (hsame i hi 0 hpos).mpr fun column hmem => ?_⟩
    cases column with
    | id => exact absurd (Or.inl hmem) hrows
    | message => trivial
    | lastModified => exact absurd (Or.inr hmem) hrows
    | user => exact absurd hmem husers

end Batch

end LogTable
