import LogTable.Proofs.Batch.Groups
import LogTable.Proofs.Scenario
import LogTable.Proofs.Table.LiveFiles

/-!
# Numbers of files

How many live files a scenario leaves that deletes nothing.  Each append adds one file for each
group of rows to those that are live, and the partition columns stay those of the first append, so
that each batch adds `Batch.fileCount` files (`Scenario.appendBatches_ensures_files`).  Main
statement: `Scenario.summary_eq_of_no_predicate`.
-/

namespace LogTable

open FileTree Predicate

/-- A summary counts the live files. -/
theorem Table.summary_ensures_files (table : Table) (world : World) :
    table.summary.Ensures world
      (fun summary _ => summary.files =
        (Log.read world.tree (locate world.home table.uri)).files.length)
      fun _ _ => True := by
  refine Run.ensures_bind ((table.scan_ensures world).mono ?_ fun _ _ _ => trivial)
  rintro ⟨snapshot, rows⟩ after ⟨-, -, hread, -⟩
  rw [hread]
  exact Run.ensures_pure rfl

namespace Scenario

variable {scenario : Scenario} {clock : Clock} {uri : String} {world : World}

/-- Each batch adds as many files. -/
theorem appendBatches_ensures_files (scenario : Scenario) (table : Table) (clock : Clock)
    (world : World) (b : Nat) (starts : List Int64) :
    (scenario.appendBatches table clock b starts).Ensures world
      (fun _ after => (Log.read after.tree (locate world.home table.uri)).files.length =
        (Log.read world.tree (locate world.home table.uri)).files.length +
          starts.length * Batch.fileCount ((Log.read world.tree
            (locate world.home table.uri)).partitionNames scenario.partitionBy)
            scenario.plan.rowsPerBatch.toNat)
      fun _ _ => True := by
  induction starts generalizing b world with
  | nil => exact Run.ensures_pure (by simp)
  | cons start starts ih =>
    refine Run.ensures_bind (Run.ensures_ofExcept (fun rows hrows => ?_) fun _ _ => trivial)
    refine Run.ensures_bind ((table.append_ensures rows _ world).mono ?_ fun _ _ _ => trivial)
    rintro version middle ⟨hchanges, -⟩
    obtain ⟨hnames, columns, files, hcolumns, hwritten, hfiles⟩ := hchanges.tree.exists_files_eq
    have hcount := Batch.length_groups_of_generate hrows scenario.plan.rowsPerBatch_pos columns
    refine Run.ensures_bind ((ih middle (b + 1)).mono ?_ fun _ _ _ => trivial)
    intro versions after hafter
    rw [hchanges.home] at hafter
    refine Run.ensures_pure ?_
    rw [hafter, hnames, hfiles, List.length_append, ← hwritten.length_eq, hcount, hcolumns,
      List.length_cons, Nat.succ_mul]
    omega

/-- What the log says when the appends begin: nothing, once the table has been removed. -/
def startReading (scenario : Scenario) (uri : String) (world : World) : LogReading :=
  if scenario.reset && world.tree.existsAt world.home uri then .absent
  else Log.read world.tree (locate world.home uri)

/-- The batches add their files to the live ones, if these are not removed. -/
theorem load_ensures_files (scenario : Scenario) (uri : String) (clock : Clock) (world : World) :
    (scenario.load .localFiles uri clock).Ensures world
      (fun _ after => (Log.read after.tree (locate world.home uri)).files.length =
        (scenario.startReading uri world).files.length +
          scenario.plan.batches.toNat * Batch.fileCount
            ((scenario.startReading uri world).partitionNames scenario.partitionBy)
            scenario.plan.rowsPerBatch.toNat)
      fun _ _ => True := by
  refine ensures_load fun journal =>
    (scenario.removeTable_ensures_tree uri { world with journal }).mono ?_ fun _ _ _ => trivial
  rintro _ removed ⟨hhome, hafter⟩ starts hstarts
  change removed.home = world.home at hhome
  have hreading : Log.read removed.tree (locate world.home uri) =
      scenario.startReading uri world := by
    unfold startReading
    split_ifs at hafter ⊢
    · exact hafter
    · rw [show removed.tree = world.tree from hafter]
  refine (scenario.appendBatches_ensures_files ⟨uri⟩ clock removed 0 starts).mono ?_
    fun _ _ _ => trivial
  intro _ appended happended
  rwa [hhome, hreading, BatchPlan.length_of_starts hstarts] at happended

/-- Without a predicate, the summary after the appends counts all rows and files. -/
theorem finish_ensures_summary [Engine] (hpredicate : scenario.deletePredicate = none)
    {plain : PlainTable} (h : Holds world.tree (locate world.home (Table.mk uri).uri) (some plain))
    (versions : List Nat) :
    (scenario.finish uri versions).Ensures world
      (fun report _ => report.summary.rows = plain.rows.card ∧
        report.summary.files = (Log.read world.tree (locate world.home uri)).files.length)
      fun _ _ => True := by
  have hdelete : scenario.deleteRows ⟨uri⟩ = pure 0 := by
    rw [deleteRows, hpredicate]
  rw [finish, hdelete, pure_bind]
  refine Run.ensures_bind ((scenario.writeCheckpoint_ensures h).mono ?_ fun _ _ _ => trivial)
  rintro _ middle ⟨hhome, -, hmiddle, hread⟩
  rw [← hhome] at hmiddle hread
  refine Run.ensures_bind (((Table.summary_ensures_holds hmiddle).and
    (Table.summary_ensures_files ⟨uri⟩ middle)).mono ?_ fun _ _ _ => trivial)
  rintro summary after ⟨⟨-, -, -, -, -, hrows⟩, hfiles⟩
  refine Run.ensures_bind (Run.ensures_ofExcept (fun _ _ => ?_) fun _ _ => trivial)
  exact Run.ensures_bind (Run.ensures_record (Run.ensures_pure
    ⟨hrows, by rw [hfiles, hread, hhome]⟩))

/-- Without a predicate, a scenario that succeeds counts the rows and files that it starts from and
those that its batches add. -/
theorem run_ensures_summary [Engine]
    (huri : StorageMode.localFiles.tableUri scenario.table scenario.localRoot = .ok uri)
    (hpredicate : scenario.deletePredicate = none) {start : Option PlainTable}
    (hstart : scenario.StartsFrom uri world start) :
    (scenario.run .localFiles clock).Ensures world
      (fun report _ =>
        report.summary.rows = (PlainTable.rowsOf start).card +
          scenario.plan.batches.toNat * scenario.plan.rowsPerBatch.toNat ∧
        report.summary.files = (scenario.startReading uri world).files.length +
          scenario.plan.batches.toNat * Batch.fileCount
            ((scenario.startReading uri world).partitionNames scenario.partitionBy)
            scenario.plan.rowsPerBatch.toNat)
      fun _ _ => True := by
  rw [scenario.run_eq_load_bind clock huri]
  refine Run.ensures_bind (((load_ensures hstart clock).and
    (scenario.load_ensures_files uri clock world)).mono ?_ fun _ _ _ => trivial)
  rintro versions loaded ⟨⟨hhome, -, batches, plain, hgenerates, hplain, -, hrows⟩, hfiles⟩
  rw [← hhome] at hplain
  refine (finish_ensures_summary hpredicate hplain versions).mono ?_ fun _ _ _ => trivial
  rintro report _ ⟨hcount, hcountFiles⟩
  constructor
  · rw [hcount, hrows, Multiset.card_add, Multiset.coe_card, hgenerates.length_flatten.2]
  · rw [hcountFiles, hhome, hfiles]

/-- A scenario without a predicate that succeeds counts the rows of its batches and one file for
each group of these, if it removes the table or there is none.  Otherwise it continues the table,
and counts what is there as well. -/
theorem summary_eq_of_no_predicate [Engine]
    (huri : StorageMode.localFiles.tableUri scenario.table scenario.localRoot = .ok uri)
    (hpredicate : scenario.deletePredicate = none) {after : World} {report : ScenarioReport}
    (hrun : (scenario.run .localFiles clock).start world = (.ok report, after)) :
    (scenario.reset = true ∧ world.tree.existsAt world.home uri = true ∨
        Log.read world.tree (locate world.home uri) = .absent →
      report.summary.rows =
          scenario.plan.batches.toNat * scenario.plan.rowsPerBatch.toNat ∧
        report.summary.files = scenario.plan.batches.toNat *
          Batch.fileCount scenario.partitionBy scenario.plan.rowsPerBatch.toNat) ∧
    (¬ (scenario.reset = true ∧ world.tree.existsAt world.home uri = true ∨
        Log.read world.tree (locate world.home uri) = .absent) →
      Reached (locate world.home uri) world →
      ∃ snapshot plain, Log.read world.tree (locate world.home uri) = .table snapshot ∧
        Holds world.tree (locate world.home uri) (some plain) ∧
        report.summary.rows = plain.rows.card +
          scenario.plan.batches.toNat * scenario.plan.rowsPerBatch.toNat ∧
        report.summary.files = snapshot.files.length + scenario.plan.batches.toNat *
          Batch.fileCount (snapshot.partitionBy.map Column.name)
            scenario.plan.rowsPerBatch.toNat) := by
  constructor
  · intro hnone
    have hreading : scenario.startReading uri world = .absent := by
      unfold startReading
      rcases hnone with ⟨hreset, hexists⟩ | habsent
      · rw [hreset, hexists]
        rfl
      · rw [habsent, ite_self]
    have hstart : scenario.StartsFrom uri world none := by
      unfold StartsFrom
      split_ifs with hremoved
      · rfl
      · exact hnone.resolve_left (by simpa using hremoved)
    have hsummary := (run_ensures_summary huri hpredicate hstart).of_ok hrun
    rw [hreading] at hsummary
    simpa [PlainTable.rowsOf, LogReading.files, LogReading.partitionNames] using hsummary
  · intro hnot hreached
    obtain ⟨hkept, hpresent⟩ := not_or.mp hnot
    have hremoved : (scenario.reset && world.tree.existsAt world.home uri) = false := by
      simpa using hkept
    obtain ⟨start, -, hstart, -⟩ := (run_ensures huri hreached.isSettled).of_ok hrun
    have hsummary := (run_ensures_summary huri hpredicate hstart).of_ok hrun
    unfold StartsFrom at hstart
    rw [hremoved] at hstart
    cases start with
    | none => exact absurd hstart hpresent
    | some plain =>
      obtain ⟨snapshot, hread, -⟩ := id hstart
      rw [startReading, hremoved, if_neg Bool.false_ne_true, hread] at hsummary
      exact ⟨snapshot, plain, hread, hstart, hsummary⟩

/-- Two batches of three rows for each of two users, in place of a table with one row and after
it. -/
theorem summary_eq_of_no_predicate_by_user :
    let world := (((Operation.append [⟨1, "a", 0, "odd_user"⟩] ["user"]).run ⟨"./t/"⟩).start
      .fresh).2
    let again : Scenario :=
      { standard with table := "t", deletePredicate := none, partitionBy := ["user"] }
    let further : Scenario := { again with reset := false }
    (∃ report, ((again.run .localFiles fun _ => ⟨0⟩).start world).1 = .ok report ∧
      report.summary.rows = 6 ∧ report.summary.files = 2 * Batch.fileCount ["user"] 3 ∧
      report.summary.files = 4) ∧
    ∃ report, ((further.run .localFiles fun _ => ⟨0⟩).start world).1 = .ok report ∧
      ∃ snapshot, Log.read world.tree ["work", "t"] = .table snapshot ∧
        report.summary.files = snapshot.files.length + 2 * Batch.fileCount
          (snapshot.partitionBy.map Column.name) 3 := by
  intro world again further
  have hplace : locate world.home "./t/" = ["work", "t"] := by decide +kernel
  constructor
  · have huri : StorageMode.localFiles.tableUri again.table again.localRoot = .ok "./t/" := by
      decide +kernel
    have hreport : ((again.run .localFiles fun _ => ⟨0⟩).start world).1 =
        .ok ⟨"./t/", [0, 1], 0, some 1, ⟨1, 6, 4⟩⟩ := by decide +kernel
    have hsummary := (summary_eq_of_no_predicate huri rfl (Prod.ext hreport rfl)).1
      (Or.inl ⟨rfl, by decide +kernel⟩)
    exact ⟨_, hreport, hsummary.1, hsummary.2, rfl⟩
  · have huri : StorageMode.localFiles.tableUri further.table further.localRoot = .ok "./t/" := by
      decide +kernel
    have hreport : ((further.run .localFiles fun _ => ⟨0⟩).start world).1 =
        .ok ⟨"./t/", [1, 2], 0, some 2, ⟨2, 7, 5⟩⟩ := by decide +kernel
    have hreached : Reached (locate world.home "./t/") world := by
      rw [hplace]
      exact .operation (.start (by decide +kernel)) (by decide +kernel) _
    have hpresent : Log.read world.tree (locate world.home "./t/") ≠ .absent := by
      decide +kernel
    obtain ⟨snapshot, -, hread, -, -, hfiles⟩ :=
      (summary_eq_of_no_predicate huri rfl (Prod.ext hreport rfl)).2
        (not_or.mpr ⟨fun h => Bool.false_ne_true h.1, hpresent⟩) hreached
    exact ⟨_, hreport, snapshot, hplace ▸ hread, hfiles⟩

/-- With a root that leads through a directory that is missing, a scenario of one row that is to
remove the table counts the row and the file that are there as well. -/
theorem counts_further_despite_reset :
    let world := (((Operation.append [⟨1, "a", 0, "odd_user"⟩] []).run ⟨"./t/"⟩).start .fresh).2
    let scenario : Scenario :=
      { standard with
        table := "t", localRoot := "a/..", plan := ⟨1, 1, by decide, by decide⟩,
        deletePredicate := none, checkpoint := false }
    scenario.reset = true ∧ ∃ report,
      ((scenario.run .localFiles fun _ => ⟨0⟩).start world).1 = .ok report ∧
        report.summary.rows = 2 ∧ report.summary.files = 2 ∧
        report.summary.rows ≠ scenario.plan.batches.toNat * scenario.plan.rowsPerBatch.toNat ∧
        report.summary.files ≠ scenario.plan.batches.toNat *
          Batch.fileCount scenario.partitionBy scenario.plan.rowsPerBatch.toNat := by
  intro world scenario
  exact ⟨rfl, ⟨"a/../t/", [1], 0, none, ⟨1, 2, 2⟩⟩, by decide +kernel, rfl, rfl, by decide,
    by decide⟩

end Scenario

end LogTable
