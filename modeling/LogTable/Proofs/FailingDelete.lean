import LogTable.Proofs.Representation
import LogTable.Proofs.Scenario
import LogTable.Proofs.Table.LiveFiles

/-!
# Scenarios whose deletion fails

A scenario stops when its deletion fails, and its failure is that of the deletion.  The removal and
the appends stay as they are: the table has their rows, and its log has had nothing added but
commits (`Scenario.LeavesAppends`).  A deletion writes its data files before its commit, but it
fails before both unless the place of the commit is taken (`Table.delete_ensures_eq`), so that the
files are those that the appends have left.  Main statement:
`Scenario.leavesAppends_of_delete_eq_error`.
-/

namespace LogTable

open FileTree Predicate

/-! ### Deletions with room -/

namespace Table

variable {table : Table} {world : World} {snapshot : Snapshot}

/-- A deletion with room for its version is carried out. -/
theorem carryOut_ensures_of_hasRoom {place : Location} {deletion : Deletion}
    (hplace : world.tree.find? place = some .directory)
    (hroom : HasRoom world.tree place (snapshot.version + 1)
      (Partition.groups snapshot.partitionBy.eraseDups deletion.kept)) :
    (carryOut place snapshot deletion).Ensures world (fun _ _ => True) fun _ _ => False := by
  unfold carryOut
  split_ifs
  · exact Run.ensures_pure trivial
  refine Run.ensures_bind ((writeFiles_ensures_isFree hplace _ .deleting
    (fun _ => Partition.ne_nil_of_mem_groups)).mono ?_ fun _ _ h => h.1 hroom.isFree)
  rintro files middle ⟨-, -, hleaves⟩
  refine Run.ensures_bind ((commit_ensures_hasCommitRoom (hleaves.kept _ hplace) _ .deleting
    _).mono ?_ fun _ _ h => h.1 (hleaves.hasCommitRoom_iff.mpr hroom.commit))
  exact fun _ _ _ => Run.ensures_pure trivial

/-- Where readers get to a table that can commit its next version, a deletion fails before it
changes anything: the rows that stay go into directories of live files. -/
theorem delete_ensures_eq [Engine] (hready : table.IsReady world) (hclosed : world.tree.IsClosed)
    (hread : Log.read world.tree (locate world.home table.uri) = .table snapshot)
    (hstored : snapshot.IsStored world.tree (locate world.home table.uri))
    (hhoused : ∀ file ∈ snapshot.files, file.IsHoused)
    (hcommit : HasCommitRoom world.tree (locate world.home table.uri) (snapshot.version + 1))
    (predicate : String) :
    (table.delete predicate).Ensures world (fun _ _ => True) fun _ after => after = world := by
  unfold delete
  refine Run.ensures_bind (Run.ensures_of_start (start_placeForWriting_of_isReady hready)
    (Run.ensures_bind (Run.ensures_tree ?_)))
  rw [hread]
  refine Run.ensures_bind (Run.ensures_pure ?_)
  cases Engine.read? predicate with
  | none => exact Run.ensures_bind (Run.ensures_throw rfl)
  | some condition =>
    simp only
    cases hdeletion : Deletion.of? world.tree (locate world.home table.uri) snapshot condition with
    | none => exact Run.ensures_bind (Run.ensures_throw rfl)
    | some deletion =>
      have hroom := hasRoom_of_deletion hclosed hstored hhoused hdeletion hcommit
      refine Run.ensures_bind (Run.ensures_pure (Run.ensures_bind
        ((carryOut_ensures_of_hasRoom hready.isDirectory hroom).mono ?_ fun _ _ h => h.elim)))
      exact fun _ _ _ => Run.ensures_bind (Run.ensures_record (Run.ensures_pure trivial))

end Table

/-! ### Logs that are only committed to -/

/-- The number of versions in a row of which the last is checkpointed as soon as it is committed.
`Table.commit` leaves these checkpoints out, and readers find the same with and without them. -/
def Log.checkpointInterval : Nat := 100

/-- The files of the log that are no commits have been there before. -/
def Log.AddsCommits (place : Location) (before after : FileTree Content) : Prop :=
  ∀ name content, after.find? (directory place ++ [name]) = some (.file content) →
    (∃ actions, content = .commit actions) ∨
      before.find? (directory place ++ [name]) = some (.file content)

namespace Log.AddsCommits

variable {place : Location} {before middle after : FileTree Content}

protected theorem refl (tree : FileTree Content) : AddsCommits place tree tree :=
  fun _ _ h => Or.inr h

protected theorem trans (h : AddsCommits place before middle)
    (h' : AddsCommits place middle after) : AddsCommits place before after := by
  intro name content hafter
  rcases h' name content hafter with hcommit | hmiddle
  · exact Or.inl hcommit
  · exact h name content hmiddle

end Log.AddsCommits

section

variable {place : Location} {onTheWay : Location → Prop} {before after : FileTree Content}

theorem Growth.addsCommits (h : Growth place onTheWay before after) :
    Log.AddsCommits place before after :=
  fun name content hafter => Or.inr ((h.find?_log_iff name content).mp hafter)

theorem Writes.addsCommits {version : Nat} {groups : List (PartitionValues × List Row)}
    {files : List DataFile} {actions : List Action}
    (h : Writes place onTheWay version groups files actions before after) :
    Log.AddsCommits place before after := by
  obtain ⟨middle, hgrowth, -, hcommitted⟩ := h.exists_growth
  refine hgrowth.addsCommits.trans fun name content hafter => ?_
  rw [hcommitted.eq_put, find?_put _ _ _ Log.commitPath_ne_nil] at hafter
  split_ifs at hafter
  · cases hafter
    exact Or.inl ⟨actions, rfl⟩
  · exact Or.inr hafter

theorem FileTree.IsCut.addsCommits (h : IsCut place before after) :
    Log.AddsCommits place before after := by
  intro name content hafter
  rw [h] at hafter
  split_ifs at hafter
  exact Or.inr hafter

end

/-! ### The removal and the appends -/

namespace Scenario

variable {scenario : Scenario} {clock : Clock} {uri : String} {world : World}

/-- The removal writes nothing, and the machine stays sound unless its home is removed. -/
theorem removeTable_ensures_isSound
    (huri : StorageMode.localFiles.tableUri scenario.table scenario.localRoot = .ok uri)
    (hsound : world.IsSound)
    (hhome : scenario.reset = true → ¬ locate world.home uri <+: world.home) :
    (scenario.removeTable .localFiles uri).Ensures world
      (fun _ after => after.home = world.home ∧ after.IsSound ∧
        Log.AddsCommits (locate world.home uri) world.tree after.tree)
      fun _ _ => True := by
  unfold removeTable
  cases hreset : scenario.reset with
  | false => exact Run.ensures_pure ⟨rfl, hsound, .refl _⟩
  | true =>
    refine Run.ensures_bind ((StorageMode.resetLocal_ensures_isCut huri world).mono ?_
      fun _ _ _ => trivial)
    intro removed after hafter
    refine Run.ensures_pure ?_
    cases removed with
    | false =>
      obtain ⟨-, rfl⟩ := hafter
      exact ⟨rfl, hsound, .refl _⟩
    | true =>
      obtain ⟨-, hsame, -, hcut⟩ := hafter
      refine ⟨hsame, ⟨hcut.isClosed hsound.closed, ?_⟩, hcut.addsCommits⟩
      rw [hsame, hcut, if_neg (hhome hreset), hsound.home]

/-- Appends write nothing but commits to the log, and readers get to the table once there has been
one. -/
theorem appendBatches_ensures_isReady {table : Table} (hne : table.uri ≠ "")
    (hsound : world.IsSound) (b : Nat) {starts : List Int64}
    (hready : starts = [] → table.IsReady world) :
    (scenario.appendBatches table clock b starts).Ensures world
      (fun _ after => table.IsReady after ∧ after.IsSound ∧
        Log.AddsCommits (locate world.home table.uri) world.tree after.tree)
      fun _ _ => True := by
  induction starts generalizing b world with
  | nil => exact Run.ensures_pure ⟨hready rfl, hsound, .refl _⟩
  | cons start starts ih =>
    refine Run.ensures_bind (Run.ensures_ofExcept (fun rows _ => ?_) fun _ _ => trivial)
    refine Run.ensures_bind ((table.append_ensures rows _ world).mono ?_ fun _ _ _ => trivial)
    rintro version middle ⟨hchanges, -, hmiddle⟩
    have hmiddle := hmiddle hsound hne
    obtain ⟨_, _, _, -, hwrites, -⟩ := hchanges.tree
    refine Run.ensures_bind ((ih (hchanges.sound hsound) (b + 1) fun _ => hmiddle).mono ?_
      fun _ _ _ => trivial)
    rintro versions after ⟨hafter, hsound', hadds⟩
    rw [hchanges.home] at hadds
    exact Run.ensures_pure ⟨hafter, hsound', hwrites.addsCommits.trans hadds⟩

theorem load_ensures_isReady
    (huri : StorageMode.localFiles.tableUri scenario.table scenario.localRoot = .ok uri)
    (hsound : world.IsSound)
    (hhome : scenario.reset = true → ¬ locate world.home uri <+: world.home) (clock : Clock) :
    (scenario.load .localFiles uri clock).Ensures world
      (fun _ after => Table.IsReady ⟨uri⟩ after ∧ after.IsSound ∧
        Log.AddsCommits (locate world.home uri) world.tree after.tree)
      fun _ _ => True := by
  refine ensures_load fun journal => ?_
  have hrecorded : World.IsSound { world with journal } := ⟨hsound.closed, hsound.home⟩
  refine (removeTable_ensures_isSound huri hrecorded hhome).mono ?_ fun _ _ _ => trivial
  rintro _ removed ⟨hsame, hremoved, hadds⟩ starts hstarts
  obtain ⟨first, rest, rfl⟩ := BatchPlan.exists_cons_of_starts hstarts
  refine (appendBatches_ensures_isReady (StorageMode.ne_empty_of_tableUri huri) hremoved 0
    fun hnil => absurd hnil (List.cons_ne_nil first rest)).mono ?_ fun _ _ _ => trivial
  rintro versions after ⟨hready, hsound', hadds'⟩
  rw [hsame] at hadds'
  exact ⟨hready, hsound', hadds.trans hadds'⟩

/-- The rows of the batches of a plan are numbered from one on. -/
theorem Generates.ids_eq {batches : List (List Row)} (h : scenario.Generates clock batches) :
    batches.flatten.map (fun row => row.id.toInt) =
      (List.range' 1 (scenario.plan.batches.toNat * scenario.plan.rowsPerBatch.toNat)).map
        Nat.cast := by
  obtain ⟨starts, hstarts, hbatches⟩ := h
  have hids : List.Forall₂ (fun start batch =>
      Batch.ids start scenario.plan.rowsPerBatch.toNat = .ok (batch.map Row.id))
      starts batches := by
    rw [← List.zipIdx_map_fst 0 starts, List.forall₂_map_left_iff]
    exact hbatches.imp fun _ _ hbatch => Batch.ids_of_generate hbatch
  unfold BatchPlan.starts at hstarts
  split_ifs at hstarts
  have hall := forall₂_comp (mapM_eq_ok_iff.mp hstarts) hids
  rw [List.range_eq_range'] at hall
  simpa using (scenario.plan.exact_of_batches (by simp) hall).2

/-! ### The failure -/

/-- The failure of a deletion is that of the scenario, which does nothing more. -/
theorem start_run_of_delete_eq_error [Engine]
    (huri : StorageMode.localFiles.tableUri scenario.table scenario.localRoot = .ok uri)
    {predicate : String} (hpredicate : scenario.deletePredicate = some predicate)
    {loaded after : World} {versions : List Nat} {failure : Failure}
    (hload : (scenario.load .localFiles uri clock).start world = (.ok versions, loaded))
    (hdelete : (Table.delete ⟨uri⟩ predicate).start loaded = (.error failure, after)) :
    (scenario.run .localFiles clock).start world = (.error failure, after) := by
  rw [scenario.run_eq_load_bind clock huri, Run.start_bind, hload]
  simp only [finish, deleteRows, hpredicate, Run.start_bind, hdelete]

end Scenario

/-- A scenario has come from `before` to `loaded` by its appends, and then to `after` by a deletion
that fails. -/
structure Scenario.LeavesAppends (scenario : Scenario) (uri : String) (start : Option PlainTable)
    (batches : List (List Row)) (before loaded after : World) : Prop where
  /-- The rows of the batches are numbered from one on. -/
  ids_eq : batches.flatten.map (fun row => row.id.toInt) =
    (List.range' 1 (scenario.plan.batches.toNat * scenario.plan.rowsPerBatch.toNat)).map Nat.cast
  /-- The table has a version for each append, and no row is lost or repeated. -/
  exists_summary : ∃ summary world, (Table.summary ⟨uri⟩).start after = (.ok summary, world) ∧
    summary.version + 1 = PlainTable.nextVersion start + scenario.plan.batches.toNat ∧
    summary.rows = (PlainTable.rowsOf start).card +
      scenario.plan.batches.toNat * scenario.plan.rowsPerBatch.toNat
  exists_readAll : ∃ rows world, (Table.readAll ⟨uri⟩).start after = (.ok rows, world) ∧
    (rows : Multiset Row) = PlainTable.rowsOf start + batches.flatten
  /-- No checkpoint has been written, if no append has made a version that is checkpointed as soon
  as it is committed. -/
  addsCommits :
    (∀ version, PlainTable.nextVersion start ≤ version →
      version < PlainTable.nextVersion start + scenario.plan.batches.toNat →
        (version + 1) % Log.checkpointInterval ≠ 0) →
    Log.AddsCommits (locate before.home uri) before.tree after.tree
  /-- Nothing has been committed, checkpointed or recorded since the appends, and nothing is
  lost. -/
  changes :
    loaded.Changes [] (Growth (locate before.home uri) (Table.OnTheWay before.home uri)) after
  /-- Nothing has been written since the appends, if the place of the next commit can be taken. -/
  eq_loaded :
    let version := PlainTable.nextVersion start + scenario.plan.batches.toNat
    version < Table.versionLimit →
      loaded.tree.isDirectory (Log.commitPath (locate before.home uri) version) = false →
      after = loaded

namespace Scenario

variable {scenario : Scenario} {clock : Clock} {uri : String} {world : World}

/-- If the appends of a scenario succeed and its deletion fails, then the scenario fails as the
deletion does, and leaves what it has appended.  If it is to remove the table, then it has started
from no table exactly if something stands at the address or there is no table in the place. -/
theorem leavesAppends_of_delete_eq_error [Engine]
    (huri : StorageMode.localFiles.tableUri scenario.table scenario.localRoot = .ok uri)
    {predicate : String} (hpredicate : scenario.deletePredicate = some predicate)
    (hreached : Reached (locate world.home uri) world) (hsound : world.IsSound)
    (hhome : scenario.reset = true → ¬ locate world.home uri <+: world.home)
    {loaded after : World} {versions : List Nat} {failure : Failure}
    (hload : (scenario.load .localFiles uri clock).start world = (.ok versions, loaded))
    (hdelete : (Table.delete ⟨uri⟩ predicate).start loaded = (.error failure, after)) :
    (scenario.run .localFiles clock).start world = (.error failure, after) ∧
    ∃ start batches, scenario.StartsFrom uri world start ∧ scenario.Generates clock batches ∧
      scenario.LeavesAppends uri start batches world loaded after ∧
      (scenario.reset = true → (start = none ↔ world.tree.existsAt world.home uri = true ∨
        Log.read world.tree (locate world.home uri) = .absent)) := by
  refine ⟨start_run_of_delete_eq_error huri hpredicate hload hdelete, ?_⟩
  rcases scenario.exists_startsFrom hreached.isSettled with ⟨start, hstart⟩ | ⟨hkept, hdamaged⟩
  swap
  · exact ((load_ensures_of_damaged hkept hdamaged clock).of_ok hload).elim
  obtain ⟨hsame, -, batches, plain, hgenerates, hplain, hnext, hrows⟩ :=
    (load_ensures hstart clock).of_ok hload
  obtain ⟨hready, hsound', hadds⟩ := (load_ensures_isReady huri hsound hhome clock).of_ok hload
  -- the removal and the appends leave live files in the directories of their values
  obtain ⟨-, hhoused⟩ := scenario.respects_load
    (Operations.respect_stays (Table.isInvariant_isHoused _ _)) clock world rfl
    fun _ hfile => hreached.isHoused hfile
  rw [hload] at hhoused
  have hchanges := (Table.delete_ensures ⟨uri⟩ predicate loaded).of_error hdelete
  have hafter : Table.IsReady ⟨uri⟩ after :=
    hready.of_kept hchanges.home fun _ hl => hchanges.tree.kept hl
  rw [← hsame] at hplain hadds hhoused
  have hholds : Holds after.tree (locate after.home uri) (some plain) := by
    rw [hchanges.home]
    exact hplain.of_growth hchanges.tree
  have hcard : plain.rows.card = (PlainTable.rowsOf start).card +
      scenario.plan.batches.toNat * scenario.plan.rowsPerBatch.toNat := by
    rw [hrows, Multiset.card_add, Multiset.coe_card, hgenerates.length_flatten.2]
  refine ⟨start, batches, hstart, hgenerates, ⟨hgenerates.ids_eq, ?_, ?_, ?_, ?_, ?_⟩,
    hstart.eq_none_iff⟩
  · obtain ⟨summary, last, hsummary, -, -, -, -, hversion, hcount⟩ :=
      Run.Ensures.exists_ok ((Table.summary_ensures_holds hholds).mono (fun _ _ h => h)
        fun _ _ hnot => hnot hafter)
    exact ⟨summary, last, hsummary, by rw [hversion, hnext], by rw [hcount, hcard]⟩
  · rw [← hrows]
    exact Table.exists_readAll hholds hafter
  · rw [← hsame]
    exact fun _ => hadds.trans hchanges.tree.addsCommits
  · rw [← hsame]
    exact hchanges
  · intro version hlimit hnot
    rw [← hsame] at hnot
    obtain ⟨snapshot, hread, hstored, hversion, -⟩ := hplain
    have hnextVersion : snapshot.version + 1 = version := by rw [hversion, hnext]
    rw [← hnextVersion] at hlimit hnot
    rw [hread] at hhoused
    have hcommit := Table.hasCommitRoom_next hsound'.closed hread hlimit hnot
    exact (Table.delete_ensures_eq hready hsound'.closed hread hstored hhoused hcommit
      predicate).of_error hdelete

/-- In place of a table with one row, two batches of three rows are left when the predicate names a
column that there is not. -/
theorem leavesAppends_of_unknown_column :
    let world := (((Operation.append [⟨1, "a", 0, "odd_user"⟩] []).run ⟨"./t/"⟩).start .fresh).2
    let scenario : Scenario := { standard with table := "t", deletePredicate := some "nope = 1" }
    let loaded := ((scenario.load .localFiles "./t/" fun _ => ⟨0⟩).start world).2
    (scenario.run .localFiles fun _ => ⟨0⟩).start world = (.error (.table .deleting), loaded) ∧
      ∃ batches, scenario.LeavesAppends "./t/" none batches world loaded loaded := by
  intro world scenario loaded
  have hplace : locate world.home "./t/" = ["work", "t"] := by decide +kernel
  have huri : StorageMode.localFiles.tableUri scenario.table scenario.localRoot = .ok "./t/" := by
    decide +kernel
  have hreached : Reached (locate world.home "./t/") world := by
    rw [hplace]
    exact .operation (.start (by decide +kernel)) (by decide +kernel) _
  have habsent : Log.read World.fresh.tree (locate World.fresh.home "./t/") = .absent := by
    decide +kernel
  have hfresh : Table.IsSteady ⟨"./t/"⟩ .fresh :=
    Or.inl ⟨none, World.isSound_fresh, habsent, fun hne => absurd rfl hne⟩
  have hsound : world.IsSound := (Operation.isSteady_run _ (by decide) hfresh).isSound
  have hversions : ((scenario.load .localFiles "./t/" fun _ => ⟨0⟩).start world).1 =
      .ok [0, 1] := by
    decide +kernel
  have hfailure : ((Table.delete ⟨"./t/"⟩ "nope = 1").start loaded).1 =
      .error (.table .deleting) := by
    decide +kernel
  obtain ⟨hrun, start, batches, -, -, hleaves, hnone⟩ := leavesAppends_of_delete_eq_error huri rfl
    hreached hsound (fun _ => by decide +kernel) (Run.start_eq_of_fst hversions)
    (Run.start_eq_of_fst hfailure)
  obtain rfl := (hnone rfl).mpr (Or.inl (by decide +kernel))
  have heq := hleaves.eq_loaded (by decide) (by decide +kernel)
  rw [heq] at hrun hleaves
  exact ⟨hrun, batches, hleaves⟩

/-- With a root that leads through a directory that is missing, nothing is removed, and the row that
was there is left beside the batches. -/
theorem leaves_further_despite_reset :
    let world := (((Operation.append [⟨1, "a", 0, "odd_user"⟩] []).run ⟨"./t/"⟩).start .fresh).2
    let scenario : Scenario :=
      { standard with table := "t", localRoot := "a/..", deletePredicate := some "nope = 1" }
    let run := (scenario.run .localFiles fun _ => ⟨0⟩).start world
    Reached ["work", "t"] world ∧ locate world.home "a/../t/" = ["work", "t"] ∧
      scenario.reset = true ∧
      ((scenario.load .localFiles "a/../t/" fun _ => ⟨0⟩).start world).1 = .ok [1, 2] ∧
      run.1 = .error (.table .deleting) ∧
      ((Table.summary ⟨"a/../t/"⟩).start run.2).1 = .ok ⟨2, 7, 3⟩ ∧
      ∀ batches loaded, ¬ scenario.LeavesAppends "a/../t/" none batches world loaded run.2 := by
  intro world scenario run
  have hsummary : ((Table.summary ⟨"a/../t/"⟩).start run.2).1 = .ok ⟨2, 7, 3⟩ := by
    decide +kernel
  refine ⟨.operation (.start (by decide +kernel)) (by decide +kernel) _, by decide +kernel, rfl,
    by decide +kernel, by decide +kernel, hsummary, fun batches loaded h => ?_⟩
  obtain ⟨summary, last, hstart, hversion, -⟩ := h.exists_summary
  rw [hstart] at hsummary
  obtain rfl : summary = ⟨2, 7, 3⟩ := Except.ok.inj hsummary
  exact absurd hversion (by decide)

end Scenario

end LogTable
