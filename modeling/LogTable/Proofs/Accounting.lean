import LogTable.Proofs.Scenario

/-!
# Counting deleted rows

A deletion counts the rows that it deletes, so that the rows before it are those after it and those
counted (`DeleteOutcome.AddsUp`), unless its predicate mentions partition columns only: then whole
files are dropped, and nothing is counted.  The report of a scenario takes the number over
(`ScenarioReport.AddsUp`).  Main statement: `Reached.addsUp_iff_counted`.
-/

namespace LogTable

open FileTree Predicate

/-! ### Sums -/

/-- The rows before a deletion are those after it and those counted as deleted. -/
def DeleteOutcome.AddsUp (outcome : DeleteOutcome) (before after : PlainTable) : Prop :=
  before.rows.card = after.rows.card + outcome.rowsDeleted

/-- The rows that a scenario starts from and those that it appends are those that are left and those
counted as deleted. -/
def ScenarioReport.AddsUp (report : ScenarioReport) (start : Option PlainTable) (total : Nat) :
    Prop :=
  (PlainTable.rowsOf start).card + total = report.summary.rows + report.rowsDeleted

/-- What is left and what is gone add up to the total if what is gone is counted; if it is not, they
do only if nothing is gone. -/
theorem total_eq_add_ite_iff {total left gone : Nat} {dropped : Bool} (h : left + gone = total) :
    (total = left + if dropped then 0 else gone) ↔ dropped = false ∨ gone = 0 := by
  cases dropped with
  | false => simp [h]
  | true =>
    simp only [if_true, reduceCtorEq, false_or]
    omega

theorem DeleteOutcome.addsUp_iff {outcome : DeleteOutcome} {plain : PlainTable} {test : Row → Bool}
    {dropped : Bool}
    (h : outcome.rowsDeleted = if dropped then 0 else plain.rows.countP (test ·)) :
    outcome.AddsUp plain (plain.delete test) ↔
      dropped = false ∨ plain.rows.countP (test ·) = 0 := by
  rw [AddsUp, h]
  exact total_eq_add_ite_iff (PlainTable.card_rows_delete test plain)

theorem ScenarioReport.IsExact.addsUp_iff [Engine] {report : ScenarioReport} {scenario : Scenario}
    {uri : String} {start : Option PlainTable} {batches : List (List Row)} {after : World}
    {dropped : Bool} (hexact : report.IsExact scenario uri start batches after)
    (h : report.rowsDeleted = if dropped then 0
      else (PlainTable.rowsOf start + batches.flatten).countP (scenario.deletes ·)) :
    report.AddsUp start (scenario.plan.batches.toNat * scenario.plan.rowsPerBatch.toNat) ↔
      dropped = false ∨
        (PlainTable.rowsOf start + batches.flatten).countP (scenario.deletes ·) = 0 := by
  rw [AddsUp, h]
  exact total_eq_add_ite_iff hexact.rows_eq

/-! ### Deletions and scenarios -/

/-- In a settled place, a deletion that succeeds deletes the rows that its predicate is true of from
a plain table, and counts them unless it drops files. -/
theorem Table.delete_ensures_counted [Engine] {table : Table} {world : World}
    (hsettled : IsSettled world.tree (locate world.home table.uri)) (predicate : String) :
    (table.delete predicate).Ensures world
      (fun outcome after => ∃ plain snapshot condition,
        Holds world.tree (locate world.home table.uri) (some plain) ∧
        Log.read world.tree (locate world.home table.uri) = .table snapshot ∧
        Engine.read? predicate = some condition ∧
        Holds after.tree (locate world.home table.uri)
          (some (plain.delete (Engine.isTrueOf condition))) ∧
        outcome.rowsDeleted = if Deletion.isOnPartitions snapshot condition then 0
          else plain.rows.countP (Engine.isTrueOf condition ·))
      fun _ _ => True := by
  refine (table.delete_ensures predicate world).mono ?_ fun _ _ _ => trivial
  rintro outcome after ⟨hchanges, -⟩
  rcases hsettled with ⟨state, hholds⟩ | hdamaged
  · obtain ⟨plain, condition, rfl, hcondition, -, hafter⟩ := hholds.of_deleted hchanges.tree
    obtain ⟨snapshot, condition', hread, hcondition', hcount⟩ :=
      hholds.rowsDeleted_of_deleted hchanges.tree
    obtain rfl := Option.some.inj (hcondition'.symm.trans hcondition)
    exact ⟨plain, snapshot, condition', hholds, hread, hcondition, hafter, hcount⟩
  · obtain ⟨snapshot, condition, middle, deletion, hread, -⟩ := hchanges.tree
    exact absurd (hdamaged.symm.trans hread) nofun

/-- A deletion of rows from a table counts them, and so does a scenario in its report, unless the
predicate mentions partition columns only: then the number is zero, and the rows do not add up
unless there was none to delete. -/
theorem Reached.addsUp_iff_counted [Engine] {uri : String} {world : World}
    (hreached : Reached (locate world.home uri) world) :
    (∀ (predicate : String) (outcome : DeleteOutcome) (after : World),
      (Table.delete ⟨uri⟩ predicate).start world = (.ok outcome, after) →
      ∃ plain snapshot condition, Holds world.tree (locate world.home uri) (some plain) ∧
        Log.read world.tree (locate world.home uri) = .table snapshot ∧
        Engine.read? predicate = some condition ∧
        Holds after.tree (locate world.home uri) (some (plain.delete (Engine.isTrueOf condition))) ∧
        (outcome.rowsDeleted = if Deletion.isOnPartitions snapshot condition then 0
          else plain.rows.countP (Engine.isTrueOf condition ·)) ∧
        (outcome.AddsUp plain (plain.delete (Engine.isTrueOf condition)) ↔
          Deletion.isOnPartitions snapshot condition = false ∨
            plain.rows.countP (Engine.isTrueOf condition ·) = 0)) ∧
    ∀ (scenario : Scenario) (clock : Clock) (report : ScenarioReport) (after : World),
      StorageMode.localFiles.tableUri scenario.table scenario.localRoot = .ok uri →
      (scenario.run .localFiles clock).start world = (.ok report, after) →
      ∃ start batches snapshot total, scenario.StartsFrom uri world start ∧
        scenario.Generates clock batches ∧
        Log.read after.tree (locate world.home uri) = .table snapshot ∧
        scenario.plan.totalRows = .ok total ∧
        (report.rowsDeleted = if scenario.dropsFiles snapshot then 0
          else (PlainTable.rowsOf start + batches.flatten).countP (scenario.deletes ·)) ∧
        (report.AddsUp start total ↔ scenario.dropsFiles snapshot = false ∨
          (PlainTable.rowsOf start + batches.flatten).countP (scenario.deletes ·) = 0) := by
  refine ⟨fun predicate outcome after hrun => ?_, fun scenario clock report after huri hrun => ?_⟩
  · obtain ⟨plain, snapshot, condition, hbefore, hread, hcondition, hafter, hcount⟩ :=
      (Table.delete_ensures_counted hreached.isSettled predicate).of_ok hrun
    exact ⟨plain, snapshot, condition, hbefore, hread, hcondition, hafter, hcount,
      DeleteOutcome.addsUp_iff hcount⟩
  · obtain ⟨start, batches, hstart, hgenerates, hexact, htotal, snapshot, hread, hcount⟩ :=
      (Scenario.run_ensures_counted huri hreached.isSettled).of_ok hrun
    exact ⟨start, batches, snapshot, _, hstart, hgenerates, hread, htotal, hcount,
      hexact.addsUp_iff hcount⟩

/-- Rows of a table that is partitioned by another column add up. -/
theorem Reached.addsUp_iff_counted_other_column :
    let rows : List Row := [⟨1, "a", 0, "odd_user"⟩, ⟨2, "a", 0, "even_user"⟩]
    let world := (((Operation.append rows ["user"]).run ⟨"./t/"⟩).start .fresh).2
    let deletion := (Table.delete ⟨"./t/"⟩ "id = 1").start world
    deletion.1 = .ok ⟨1, 1⟩ ∧ ∃ plain condition, Holds world.tree ["work", "t"] (some plain) ∧
      Engine.read? "id = 1" = some condition ∧
      DeleteOutcome.AddsUp ⟨1, 1⟩ plain (plain.delete (Engine.isTrueOf condition)) := by
  intro rows world deletion
  have hplace : locate world.home "./t/" = ["work", "t"] := by decide +kernel
  have hreached : Reached (locate world.home "./t/") world := by
    rw [hplace]
    exact .operation (.start (by decide +kernel)) (by decide +kernel) _
  have hanswer : deletion.1 = .ok ⟨1, 1⟩ := by decide +kernel
  have hrun : deletion = (.ok ⟨1, 1⟩, deletion.2) := by rw [← hanswer]
  obtain ⟨plain, snapshot, condition, hbefore, -, hcondition, -, hcount, hiff⟩ :=
    (Reached.addsUp_iff_counted hreached).1 _ _ _ hrun
  refine ⟨hanswer, plain, condition, hplace ▸ hbefore, hcondition, hiff.mpr (Or.inl ?_)⟩
  -- a row has been counted
  by_contra hdropped
  rw [Bool.not_eq_false] at hdropped
  rw [if_pos hdropped] at hcount
  exact absurd hcount (by decide)

/-- A row of a table that is partitioned by the column of the predicate is gone without being
counted, by a deletion and by a scenario. -/
theorem Reached.not_addsUp_of_partition_column :
    let rows : List Row := [⟨1, "a", 0, "odd_user"⟩, ⟨2, "a", 0, "even_user"⟩]
    let world := (((Operation.append rows ["id"]).run ⟨"./t/"⟩).start .fresh).2
    let deletion := (Table.delete ⟨"./t/"⟩ "id = 1").start world
    let scenario : Scenario := { Scenario.standard with table := "t", partitionBy := ["id"] }
    Reached ["work", "t"] world ∧
      (∃ before outcome after, ((Table.summary ⟨"./t/"⟩).start world).1 = .ok before ∧
        deletion.1 = .ok outcome ∧ ((Table.summary ⟨"./t/"⟩).start deletion.2).1 = .ok after ∧
        before.rows ≠ after.rows + outcome.rowsDeleted) ∧
      ∃ report total, ((scenario.run .localFiles fun _ => ⟨0⟩).start .fresh).1 = .ok report ∧
        scenario.plan.totalRows = .ok total ∧ ¬ report.AddsUp none total := by
  intro rows world deletion scenario
  refine ⟨.operation (.start (by decide +kernel)) (by decide +kernel) _,
    ⟨⟨0, 2, 2⟩, ⟨1, 0⟩, ⟨1, 1, 1⟩, by decide +kernel, by decide +kernel, by decide +kernel,
      by decide⟩,
    ⟨"./t/", [0, 1], 0, some 2, ⟨2, 5, 5⟩⟩, 6, by decide +kernel, by decide +kernel, ?_⟩
  rw [ScenarioReport.AddsUp, PlainTable.rowsOf, Multiset.card_zero]
  decide

end LogTable
