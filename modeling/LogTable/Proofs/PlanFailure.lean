import LogTable.Predicate.Standard
import LogTable.Proofs.Batch.Ids
import LogTable.Proofs.Containment
import LogTable.Proofs.Removal
import LogTable.Proofs.Table.Failures

/-!
# Plans that cannot be carried out

A scenario can fail for its own settings: by a settings fault, or because its ids overflow
(`Scenario.PlanFailure`).  If it does so before it has appended anything, the only thing that it can
have done to the files is to remove the table that it was to replace.  Main statement:
`Scenario.tree_eq_iff_of_planFailure`.
-/

namespace LogTable

open FileTree Predicate

/-! ### What has been recorded -/

/-- The later journal continues the earlier one. -/
def World.Records (before after : World) : Prop :=
  before.journal <+: after.journal

/-- An append has been recorded since. -/
def World.HasAppended (before after : World) : Prop :=
  ∃ uri version rows, .batchAppended uri version rows ∈ after.journal.drop before.journal.length

theorem isEvolution_records : IsEvolution World.Records where
  refl world := List.prefix_refl world.journal
  trans h h' := h.trans h'
  record _ _ := List.prefix_append _ _

namespace World

variable {first second third : World}

theorem Changes.records {events : List Event}
    {change : FileTree Content → FileTree Content → Prop}
    (h : first.Changes events change second) : first.Records second := by
  rw [Records, h.journal]
  exact List.prefix_append _ _

theorem HasAppended.of_records_left (h : second.HasAppended third) (hrecords : first.Records second)
    (hrecords' : second.Records third) : first.HasAppended third := by
  obtain ⟨uri, version, rows, hmem⟩ := h
  obtain ⟨events, hevents⟩ := hrecords
  obtain ⟨events', hevents'⟩ := hrecords'
  refine ⟨uri, version, rows, ?_⟩
  rw [← hevents', List.drop_left] at hmem
  rw [← hevents', ← hevents, List.append_assoc, List.drop_left]
  exact List.mem_append_right _ hmem

theorem HasAppended.of_records_right (h : first.HasAppended second)
    (hrecords : second.Records third) : first.HasAppended third := by
  obtain ⟨uri, version, rows, hmem⟩ := h
  obtain ⟨events, hevents⟩ := hrecords
  refine ⟨uri, version, rows, ?_⟩
  rw [← hevents, List.drop_append]
  exact List.mem_append_left _ hmem

end World

theorem Table.append_respects_records (table : Table) (rows : List Row)
    (partitionBy : List String) : (table.append rows partitionBy).Respects World.Records :=
  fun world => ((table.append_ensures rows partitionBy world).mono
    (fun _ _ h => h.1.records) fun _ _ h => h.records).after

/-- The operations on a local table only add to the journal. -/
theorem Operations.respect_records [Engine] (uri : String) :
    Respect World.Records .localFiles uri where
  evolution := isEvolution_records
  append := Table.append_respects_records ⟨uri⟩
  delete predicate world := ((Table.delete_ensures ⟨uri⟩ predicate world).mono
    (fun _ _ h => h.1.records) fun _ _ h => h.records).after
  checkpoint world := ((Table.checkpoint_ensures ⟨uri⟩ world).mono
    (fun _ _ ⟨_, _, h, _⟩ => h.records) fun _ _ h => h.1.records).after
  scan world := ((Table.scan_ensures ⟨uri⟩ world).mono
    (fun _ _ h => h.1.records) fun _ _ h => h.1.records).after
  resetLocal world := by
    refine Run.Ensures.after ?_
    unfold StorageMode.resetLocal
    rw [StorageMode.isLocal_localFiles, if_neg (by decide)]
    refine Run.ensures_bind (Run.ensures_tree (Run.ensures_bind (Run.ensures_home ?_)))
    generalize world.tree.removeDirectory world.home uri = removed
    obtain ⟨outcome, tree⟩ := removed
    refine Run.ensures_bind (Run.ensures_setTree ?_)
    split
    · exact Run.ensures_bind (Run.ensures_record (Run.ensures_pure (List.prefix_append _ _)))
    · exact Run.ensures_pure (List.prefix_refl _)
    · exact Run.ensures_throw (List.prefix_refl _)

/-! ### Scenarios that fail for their plan -/

namespace Scenario

/-- The failure is one of the settings of the scenario: a settings fault, or an overflow in the
first ids of the batches or in the ids of the first batch. -/
inductive PlanFailure (scenario : Scenario) (clock : Clock) : Failure → Prop
  | settings (fault : SettingsFault) : PlanFailure scenario clock (.settings fault)
  | starts {abort : Abort} (h : scenario.plan.starts = .error abort)
    (hoverflow : abort.isOverflow = true) : PlanFailure scenario clock (.abort abort)
  | batch {start : Int64} {starts : List Int64} {abort : Abort}
    (hstarts : scenario.plan.starts = .ok (start :: starts))
    (h : Batch.generate start scenario.plan.rowsPerBatch.toNat (clock 0) scenario.message =
      .error (.abort abort))
    (hoverflow : abort.isOverflow = true) : PlanFailure scenario clock (.abort abort)

/-- The scenario is to remove its table first, and a directory is found at the address. -/
def Removes (scenario : Scenario) (world : World) : Prop :=
  scenario.reset = true ∧
    ∃ uri, StorageMode.localFiles.tableUri scenario.table scenario.localRoot = .ok uri ∧
      world.tree.FindsDirectory world.home uri

/-- The files that the removal of the table leaves, if it is removed. -/
def IsRemoved (scenario : Scenario) (uri : String) (before after : World) : Prop :=
  scenario.Removes before ∧ IsCut (locate before.home uri) before.tree after.tree ∨
    ¬ scenario.Removes before ∧ after.tree = before.tree

theorem removeTable_ensures_isRemoved {scenario : Scenario} {uri : String}
    (huri : StorageMode.localFiles.tableUri scenario.table scenario.localRoot = .ok uri)
    (world : World) :
    (scenario.removeTable .localFiles uri).Ensures world
      (fun _ after => scenario.IsRemoved uri world after ∧ world.Records after)
      fun failure _ => ∃ fault, failure = .fault (.files uri fault) := by
  unfold removeTable
  split_ifs with hreset
  · refine Run.ensures_bind ((StorageMode.resetLocal_ensures_isCut huri world).mono ?_
      fun _ _ h => h)
    intro removed after hafter
    refine Run.ensures_pure ?_
    split_ifs at hafter with hremoved
    · obtain ⟨hfinds, -, hjournal, hcut⟩ := hafter
      refine ⟨Or.inl ⟨⟨hreset, uri, huri, hfinds⟩, hcut⟩, ?_⟩
      rw [World.Records, hjournal]
      exact List.prefix_append _ _
    · obtain ⟨hresolve, rfl⟩ := hafter
      refine ⟨Or.inr ⟨?_, rfl⟩, List.prefix_refl _⟩
      rintro ⟨-, uri', huri', hfinds, -⟩
      obtain rfl : uri' = uri := Except.ok.inj (huri'.symm.trans huri)
      exact absurd (hresolve.symm.trans hfinds) nofun
  · exact Run.ensures_pure ⟨Or.inr ⟨fun h => hreset h.1, rfl⟩, List.prefix_refl _⟩

/-- The appends of a plan that starts with a batch record one, or fail for something else than the
plan, or have done nothing. -/
theorem appendBatches_ensures_hasAppended {scenario : Scenario} {start : Int64}
    {starts : List Int64} (hstarts : scenario.plan.starts = .ok (start :: starts)) (uri : String)
    (clock : Clock) (world : World) :
    (scenario.appendBatches ⟨uri⟩ clock 0 (start :: starts)).Ensures world
      (fun _ after => world.HasAppended after ∧ world.Records after)
      fun failure after => world.HasAppended after ∧ world.Records after ∨
        (scenario.PlanFailure clock failure → after = world) := by
  refine Run.ensures_bind
    (Run.ensures_ofExcept (fun rows hrows => ?_) fun _ _ => Or.inr fun _ => rfl)
  refine Run.ensures_bind (((Table.append_ensures ⟨uri⟩ rows _ world).failsOnly
    (Table.append_failsOnly _ _ _)).mono ?_ ?_)
  · rintro version middle ⟨hchanges, -⟩
    have happended : world.HasAppended middle :=
      ⟨uri, version, rows.length, by simp [hchanges.journal]⟩
    have hrest := (scenario.respects_appendBatches isEvolution_records
      (Table.append_respects_records ⟨uri⟩) clock 1 starts).ensures middle
    refine Run.ensures_bind (hrest.mono (fun versions after hafter => Run.ensures_pure ?_) ?_)
    · exact ⟨happended.of_records_right hafter, hchanges.records.trans hafter⟩
    · exact fun _ after hafter =>
        Or.inl ⟨happended.of_records_right hafter, hchanges.records.trans hafter⟩
  · rintro failure after ⟨-, hfailure⟩
    refine Or.inr fun hplan => ?_
    cases hplan with
    | settings fault => exact hfailure.elim
    | starts h _ => exact absurd (hstarts.symm.trans h) nofun
    | batch hstarts' h _ =>
      cases hstarts.symm.trans hstarts'
      exact absurd (hrows.symm.trans h) nofun

/-- A scenario with an address that fails for its plan has appended something, or done no more than
to remove its table. -/
theorem run_ensures_isRemoved [Engine] {scenario : Scenario} {clock : Clock} {uri : String}
    (huri : StorageMode.localFiles.tableUri scenario.table scenario.localRoot = .ok uri)
    (world : World) :
    (scenario.run .localFiles clock).Ensures world (fun _ _ => True)
      fun failure after => scenario.PlanFailure clock failure → ¬ world.HasAppended after →
        scenario.IsRemoved uri world after := by
  rw [scenario.run_of_tableUri clock huri]
  refine Run.ensures_bind (Run.ensures_record ?_)
  have hselected := isEvolution_records.record world
    (.storageSelected uri StorageMode.localFiles.redactedOptions)
  refine Run.ensures_bind ((removeTable_ensures_isRemoved huri _).mono ?_ ?_)
  swap
  · rintro _ after ⟨fault, rfl⟩ hplan
    cases hplan
  rintro _ removed ⟨hremoved, hrecords⟩
  have hrecords' : world.Records removed := hselected.trans hrecords
  refine Run.ensures_bind (Run.ensures_ofExcept_mapError (fun starts hstarts => ?_)
    fun _ _ _ _ => hremoved)
  obtain ⟨start, starts, rfl⟩ := BatchPlan.exists_cons_of_starts hstarts
  refine Run.ensures_bind ((appendBatches_ensures_hasAppended hstarts uri clock removed).mono ?_ ?_)
  · rintro versions middle ⟨happended, hmiddle⟩
    refine ((scenario.respects_finish (Operations.respect_records uri) versions).ensures
      middle).mono (fun _ _ _ => trivial) fun _ after hafter _ hnone => ?_
    exact absurd ((happended.of_records_right hafter).of_records_left hrecords'
      (hmiddle.trans hafter)) hnone
  · rintro failure after (⟨happended, hafter⟩ | hsame) hplan hnone
    · exact absurd (happended.of_records_left hrecords' hafter) hnone
    · rw [hsame hplan]
      exact hremoved

/-- A scenario that fails for its plan before it has appended anything leaves the files as they are
exactly if it does not remove its table first; otherwise the place of the table is cut off, and
nothing else is changed. -/
theorem tree_eq_iff_of_planFailure [Engine] {scenario : Scenario} {clock : Clock}
    {world after : World} {failure : Failure}
    (hrun : (scenario.run .localFiles clock).start world = (.error failure, after))
    (hplan : scenario.PlanFailure clock failure) (hnone : ¬ world.HasAppended after) :
    (after.tree = world.tree ↔ ¬ scenario.Removes world) ∧
      ∀ uri, scenario.Removes world →
        StorageMode.localFiles.tableUri scenario.table scenario.localRoot = .ok uri →
        IsCut (locate world.home uri) world.tree after.tree := by
  cases huri : StorageMode.localFiles.tableUri scenario.table scenario.localRoot with
  | error fault =>
    have hnot : ¬ scenario.Removes world := by
      rintro ⟨-, uri, huri', -⟩
      exact absurd (huri.symm.trans huri') nofun
    have hafter : after = world := by
      rw [run, huri] at hrun
      exact (congrArg Prod.snd hrun).symm
    rw [hafter]
    exact ⟨iff_of_true rfl hnot, fun _ h => absurd h hnot⟩
  | ok uri =>
    rcases (run_ensures_isRemoved huri world).of_error hrun hplan hnone with
      ⟨hremoves, hcut⟩ | ⟨hnot, htree⟩
    · obtain ⟨uri', huri', hfinds⟩ := hremoves.2
      obtain rfl : uri' = uri := Except.ok.inj (huri'.symm.trans huri)
      refine ⟨iff_of_false (hcut.ne hfinds.2) (not_not_intro hremoves), fun _ _ h => ?_⟩
      rw [← Except.ok.inj h]
      exact hcut
    · exact ⟨iff_of_true htree hnot, fun _ h => absurd h hnot⟩

/-- A plan of three batches whose ids overflow leaves the table that it is to continue as it is. -/
theorem tree_eq_of_overflow_without_reset :
    let world := ((Table.append ⟨"./t/"⟩ [⟨1, "a", 0, "odd_user"⟩] []).start .fresh).2
    let scenario : Scenario :=
      { standard with table := "t", plan := ⟨3, 9223372036854775808, by decide, by decide⟩,
                      reset := false }
    let result := (scenario.run .localFiles fun _ => ⟨0⟩).start world
    result.1 = .error (.abort .mulOverflow) ∧
      scenario.PlanFailure (fun _ => ⟨0⟩) (.abort .mulOverflow) ∧ ¬ world.HasAppended result.2 ∧
      result.2.tree = world.tree := by
  intro world scenario result
  have hfailure : result.1 = .error (.abort .mulOverflow) := by decide +kernel
  have hrun : result = (.error (.abort .mulOverflow), result.2) := Prod.ext hfailure rfl
  have hplan : scenario.PlanFailure (fun _ => ⟨0⟩) (.abort .mulOverflow) :=
    .starts (by decide +kernel) rfl
  have hjournal : result.2.journal.drop world.journal.length =
      [.storageSelected "./t/" []] := by decide +kernel
  have hnone : ¬ world.HasAppended result.2 := by
    rintro ⟨uri, version, rows, hmem⟩
    rw [hjournal] at hmem
    cases List.mem_singleton.mp hmem
  have hnot : ¬ scenario.Removes world := fun h => absurd h.1 (by decide)
  exact ⟨hfailure, hplan, hnone, (tree_eq_iff_of_planFailure hrun hplan hnone).1.mpr hnot⟩

/-- The same plan with a table to be removed first: the removal comes before the overflow, so that
the table is lost although nothing has been appended. -/
theorem removes_before_overflow :
    let world := ((Table.append ⟨"./t/"⟩ [⟨1, "a", 0, "odd_user"⟩] []).start .fresh).2
    let scenario : Scenario :=
      { standard with table := "t", plan := ⟨3, 9223372036854775808, by decide, by decide⟩ }
    let result := (scenario.run .localFiles fun _ => ⟨0⟩).start world
    result.1 = .error (.abort .mulOverflow) ∧
      scenario.PlanFailure (fun _ => ⟨0⟩) (.abort .mulOverflow) ∧ ¬ world.HasAppended result.2 ∧
      result.2.tree ≠ world.tree ∧
      ((Table.summary ⟨"./t/"⟩).start world).1 = .ok ⟨0, 1, 1⟩ ∧
      ((Table.summary ⟨"./t/"⟩).start result.2).1 = .error (.table .opening) := by
  intro world scenario result
  have hjournal : result.2.journal.drop world.journal.length =
      [.storageSelected "./t/" [], .tableRemoved "./t/"] := by decide +kernel
  refine ⟨by decide +kernel, .starts (by decide +kernel) rfl, ?_, fun heq => ?_,
    by decide +kernel, by decide +kernel⟩
  · rintro ⟨uri, version, rows, hmem⟩
    rw [hjournal] at hmem
    simp at hmem
  · have hgone : result.2.tree.isDirectory ["work", "t"] = false := by decide +kernel
    rw [heq] at hgone
    exact absurd hgone (by decide +kernel)

end Scenario

end LogTable
