import LogTable.Proofs.Batch.Ids
import LogTable.Proofs.Lines
import LogTable.Proofs.Table.Lockstep

/-!
# Journals of scenarios

What a scenario records.  Its appends return versions that follow one another without a gap
(`Scenario.versionsFrom_eq_range'`), up to the first append that fails.  Each version is recorded by
one event, and all other events of the scenario are quiet: they are about the same address, and
neither an append nor a failure.  Main statement: `Scenario.run_ensures_journals`, whether the
scenario succeeds or fails.
-/

namespace LogTable

open Predicate

/-! ### Versions that appends return -/

/-- The version that an append to a log makes, if the log can be read. -/
def LogReading.nextVersion? : LogReading → Option Nat
  | absent => some 0
  | damaged => none
  | table snapshot => some (snapshot.version + 1)

/-- Contents at a version are followed by the next version, unless they cannot be read. -/
theorem Log.nextVersion?_ofContents (contents : Contents) (version : Nat) :
    (Log.ofContents contents version).nextVersion? = none ∨
      (Log.ofContents contents version).nextVersion? = some (version + 1) := by
  unfold Log.ofContents
  split
  · exact .inl rfl
  · split_ifs
    · exact .inl rfl
    · exact .inr rfl

namespace Table

variable {place : Location} {onTheWay : Location → Prop} {partitionBy : List String}
  {rows : List Row} {version : Nat} {lost : Bool} {before after : FileTree Content}

/-- An append makes the next version. -/
theorem Appended.nextVersion?_before
    (h : Appended place onTheWay partitionBy rows version lost before after) :
    (Log.read before place).nextVersion? = some version := by
  obtain ⟨actions, columns, files, happends, -, -⟩ := h
  generalize Log.read before place = reading at happends
  cases happends <;> rfl

/-- After an append the version that follows is next, unless the log cannot be read any more. -/
theorem Appended.nextVersion?_after
    (h : Appended place onTheWay partitionBy rows version lost before after) :
    (Log.read after place).nextVersion? = none ∨
      (Log.read after place).nextVersion? = some (version + 1) := by
  obtain ⟨actions, columns, files, happends, hwrites, -⟩ := h
  generalize hread : Log.read before place = reading at happends
  cases happends with
  | first => rw [hwrites.read_of_absent hread]; exact Log.nextVersion?_ofContents _ _
  | next => rw [hwrites.read_of_table hread]; exact Log.nextVersion?_ofContents _ _

end Table

namespace Scenario

variable {table : Table} {storage : StorageMode} {uri : String} {world : World}

/-- Makes the batch with the given number and first id, and appends it. -/
def appendBatch (scenario : Scenario) (table : Table) (clock : Clock) (b : Nat) (start : Int64) :
    Run Nat := do
  let rows ← Run.ofExcept
    (Batch.generate start scenario.plan.rowsPerBatch.toNat (clock b) scenario.message)
  table.append rows scenario.partitionBy

theorem appendBatches_cons (scenario : Scenario) (table : Table) (clock : Clock) (b : Nat)
    (start : Int64) (starts : List Int64) :
    scenario.appendBatches table clock b (start :: starts) = (do
      let version ← scenario.appendBatch table clock b start
      return version :: (← scenario.appendBatches table clock (b + 1) starts)) := by
  rw [appendBatches, appendBatch, bind_assoc]

/-- The versions that the appends of batches return, up to the first that fails. -/
def versionsFrom (scenario : Scenario) (table : Table) (clock : Clock) :
    (b : Nat) → List Int64 → World → List Nat
  | _, [], _ => []
  | b, start :: starts, world =>
    match (scenario.appendBatch table clock b start).start world with
    | (.ok version, after) => version :: versionsFrom scenario table clock (b + 1) starts after
    | (.error _, _) => []

/-- The versions that the appends of a scenario return, whether it succeeds or fails. -/
def returnedVersions (scenario : Scenario) (storage : StorageMode) (clock : Clock)
    (world : World) : List Nat :=
  match storage.tableUri scenario.table scenario.localRoot, scenario.plan.starts with
  | .ok uri, .ok starts =>
    match (scenario.removeTable storage uri).start world with
    | (.ok _, after) => scenario.versionsFrom ⟨uri⟩ clock 0 starts after
    | (.error _, _) => []
  | _, _ => []

/-- A batch that is appended makes the next version and is recorded; otherwise nothing is. -/
theorem appendBatch_ensures (scenario : Scenario) (table : Table) (clock : Clock) (b : Nat)
    (start : Int64) (world : World) :
    (scenario.appendBatch table clock b start).Ensures world
      (fun version after => after.home = world.home ∧
        after.journal = world.journal ++
          [.batchAppended table.uri version scenario.plan.rowsPerBatch.toNat] ∧
        (Log.read world.tree (FileTree.locate world.home table.uri)).nextVersion? = some version ∧
        ((Log.read after.tree (FileTree.locate world.home table.uri)).nextVersion? = none ∨
          (Log.read after.tree (FileTree.locate world.home table.uri)).nextVersion? =
            some (version + 1)))
      fun _ after => after.journal = world.journal := by
  refine Run.ensures_bind (Run.ensures_ofExcept (fun rows hrows => ?_) fun _ _ => rfl)
  refine (Table.append_ensures table rows _ world).mono ?_ ?_
  · rintro version after ⟨hchanges, -⟩
    refine ⟨hchanges.home, ?_, hchanges.tree.nextVersion?_before, hchanges.tree.nextVersion?_after⟩
    rw [hchanges.journal, Batch.length_of_generate hrows]
  · intro _ after hchanges
    rw [hchanges.journal, List.append_nil]

/-- The appends of batches return the versions from the next one on, without a gap. -/
theorem versionsFrom_eq_range' (scenario : Scenario) (clock : Clock) (b : Nat)
    (starts : List Int64) (world : World) :
    ∃ count, scenario.versionsFrom table clock b starts world =
        List.range' ((Log.read world.tree
          (FileTree.locate world.home table.uri)).nextVersion?.getD 0) count ∧
      ((Log.read world.tree (FileTree.locate world.home table.uri)).nextVersion? = none →
        count = 0) := by
  induction starts generalizing b world with
  | nil => exact ⟨0, rfl, fun _ => rfl⟩
  | cons start starts ih =>
    have happend := scenario.appendBatch_ensures table clock b start world
    unfold versionsFrom
    cases hrun : (scenario.appendBatch table clock b start).start world with
    | mk answer after =>
      cases answer with
      | error failure => exact ⟨0, rfl, fun _ => rfl⟩
      | ok version =>
        obtain ⟨hhome, -, hbefore, hafter⟩ := happend.of_ok hrun
        obtain ⟨count, hversions, hnone⟩ := ih (b + 1) after
        rw [hhome] at hversions hnone
        simp only [hversions, hbefore, Option.getD_some, reduceCtorEq, false_implies, and_true]
        rcases hafter with hafter | hafter
        · exact ⟨1, by rw [hnone hafter]; rfl⟩
        · exact ⟨count + 1, by rw [hafter, List.range'_succ]; rfl⟩

/-- The versions that a scenario returns follow one another without a gap. -/
theorem returnedVersions_eq_range' (scenario : Scenario) (storage : StorageMode) (clock : Clock)
    (world : World) : ∃ first count,
      scenario.returnedVersions storage clock world = List.range' first count := by
  unfold returnedVersions
  split
  · split
    · obtain ⟨count, hversions, -⟩ := scenario.versionsFrom_eq_range' clock 0 _ _
      exact ⟨_, count, hversions⟩
    · exact ⟨0, 0, rfl⟩
  · exact ⟨0, 0, rfl⟩

end Scenario

/-! ### Quiet events -/

/-- The event is about an address, and is neither an append nor a failure. -/
def Event.IsQuiet (uri : String) (event : Event) : Prop :=
  event.texts ⊆ [uri] ∧ event.isAppend = false ∧ event.isFailure = false

/-- Only quiet events have been recorded since. -/
def World.NotesQuietly (uri : String) (before after : World) : Prop :=
  ∃ events, after.journal = before.journal ++ events ∧ ∀ event ∈ events, event.IsQuiet uri

namespace World.NotesQuietly

variable {uri : String} {first second third : World}

theorem refl (world : World) : world.NotesQuietly uri world :=
  ⟨[], (List.append_nil _).symm, fun _ h => nomatch h⟩

theorem trans (h : first.NotesQuietly uri second) (h' : second.NotesQuietly uri third) :
    first.NotesQuietly uri third := by
  obtain ⟨events, hjournal, hquiet⟩ := h
  obtain ⟨events', hjournal', hquiet'⟩ := h'
  refine ⟨events ++ events', by rw [hjournal', hjournal, List.append_assoc], ?_⟩
  intro event hmem
  exact (List.mem_append.mp hmem).elim (hquiet event) (hquiet' event)

theorem of_changes {events : List Event} {change : FileTree Content → FileTree Content → Prop}
    (h : first.Changes events change second) (hquiet : ∀ event ∈ events, event.IsQuiet uri) :
    first.NotesQuietly uri second :=
  ⟨events, h.journal, hquiet⟩

end World.NotesQuietly

section Quiet

variable {uri : String}

theorem Run.respects_notesQuietly_pure {α : Type} (a : α) :
    (pure a : Run α).Respects (World.NotesQuietly uri) :=
  World.NotesQuietly.refl

theorem Run.respects_notesQuietly_ofExcept {α : Type} (answer : Except Failure α) :
    (ofExcept answer).Respects (World.NotesQuietly uri) := by
  cases answer with
  | ok a => exact World.NotesQuietly.refl
  | error failure => exact World.NotesQuietly.refl

theorem Run.respects_notesQuietly_record {event : Event} (h : event.IsQuiet uri) :
    (record event).Respects (World.NotesQuietly uri) :=
  fun _ => ⟨[event], rfl, fun _ hmem => List.mem_singleton.mp hmem ▸ h⟩

theorem Table.respects_notesQuietly_delete [Engine] (predicate : String) :
    (delete ⟨uri⟩ predicate).Respects (World.NotesQuietly uri) := by
  refine Run.respects_of_ensures fun world => (delete_ensures ⟨uri⟩ predicate world).mono ?_ ?_
  · rintro _ after ⟨hchanges, -⟩
    exact .of_changes hchanges (List.forall_mem_singleton.mpr ⟨List.Subset.refl _, rfl, rfl⟩)
  · intro _ after hchanges
    exact .of_changes hchanges (by simp)

theorem Table.respects_notesQuietly_checkpoint :
    (checkpoint ⟨uri⟩).Respects (World.NotesQuietly uri) := by
  refine Run.respects_of_ensures fun world => (checkpoint_ensures ⟨uri⟩ world).mono ?_ ?_
  · rintro _ after ⟨_, -, hchanges, -⟩
    exact .of_changes hchanges (List.forall_mem_singleton.mpr ⟨List.Subset.refl _, rfl, rfl⟩)
  · rintro _ after ⟨hchanges, -⟩
    exact .of_changes hchanges (by simp)

theorem Table.respects_notesQuietly_summary :
    (summary ⟨uri⟩).Respects (World.NotesQuietly uri) := by
  have hscan : (scan ⟨uri⟩).Respects (World.NotesQuietly uri) := by
    refine Run.respects_of_ensures fun world => (scan_ensures ⟨uri⟩ world).mono ?_ ?_
    · rintro _ after ⟨hchanges, -⟩
      exact .of_changes hchanges (by simp)
    · rintro _ after ⟨hchanges, -⟩
      exact .of_changes hchanges (by simp)
  exact hscan.bind_of_trans .trans fun _ => Run.respects_notesQuietly_pure _

theorem StorageMode.respects_notesQuietly_resetLocal (storage : StorageMode) :
    (storage.resetLocal uri).Respects (World.NotesQuietly uri) := by
  cases storage with
  | objectStore store => exact World.NotesQuietly.refl
  | localFiles =>
    intro world
    rw [start_resetLocal]
    generalize world.tree.removeDirectory world.home uri = result
    obtain ⟨outcome, tree⟩ := result
    have hnothing : world.NotesQuietly uri { world with tree } := World.NotesQuietly.refl _
    cases outcome with
    | ok _ =>
      exact hnothing.trans
        (Run.respects_notesQuietly_record ⟨List.Subset.refl _, rfl, rfl⟩ _)
    | error fault => cases fault <;> exact hnothing

namespace Scenario

variable {storage : StorageMode}

theorem respects_notesQuietly_removeTable (scenario : Scenario) (storage : StorageMode)
    (uri : String) :
    (scenario.removeTable storage uri).Respects (World.NotesQuietly uri) := by
  unfold removeTable
  split_ifs
  · exact (storage.respects_notesQuietly_resetLocal).bind_of_trans .trans fun _ =>
      Run.respects_notesQuietly_pure _
  · exact Run.respects_notesQuietly_pure _

theorem respects_notesQuietly_finish [Engine] (scenario : Scenario) (versions : List Nat) :
    (scenario.finish uri versions).Respects (World.NotesQuietly uri) := by
  have hdelete : (scenario.deleteRows ⟨uri⟩).Respects (World.NotesQuietly uri) := by
    unfold deleteRows
    split
    · exact (Table.respects_notesQuietly_delete _).bind_of_trans .trans fun _ =>
        Run.respects_notesQuietly_pure _
    · exact Run.respects_notesQuietly_pure _
  have hcheckpoint : (scenario.writeCheckpoint ⟨uri⟩).Respects (World.NotesQuietly uri) := by
    unfold writeCheckpoint
    split_ifs
    · exact Table.respects_notesQuietly_checkpoint.bind_of_trans .trans fun _ =>
        Run.respects_notesQuietly_pure _
    · exact Run.respects_notesQuietly_pure _
  exact hdelete.bind_of_trans .trans fun _ => hcheckpoint.bind_of_trans .trans fun _ =>
    Table.respects_notesQuietly_summary.bind_of_trans .trans fun _ =>
    (Run.respects_notesQuietly_ofExcept _).bind_of_trans .trans fun _ =>
    (Run.respects_notesQuietly_record ⟨List.Subset.refl _, rfl, rfl⟩).bind_of_trans .trans fun _ =>
    Run.respects_notesQuietly_pure _

end Scenario

end Quiet

/-! ### The whole scenario -/

/-- Since then, appends with the given versions have been recorded in order, and otherwise only
quiet events. -/
def World.NotesAppends (uri : String) (rows : Nat) (versions : List Nat) (before after : World) :
    Prop :=
  ∃ front back, after.journal =
      before.journal ++ front ++ versions.map (fun version => .batchAppended uri version rows) ++
        back ∧
    (∀ event ∈ front, event.IsQuiet uri) ∧ ∀ event ∈ back, event.IsQuiet uri

/-- Appends may come after and before quiet events. -/
theorem World.NotesAppends.of_journal {uri : String} {rows : Nat} {versions : List Nat}
    {before start last after : World} (hfront : before.NotesQuietly uri start)
    (hjournal : last.journal =
      start.journal ++ versions.map fun version => .batchAppended uri version rows)
    (hback : last.NotesQuietly uri after) : before.NotesAppends uri rows versions after := by
  obtain ⟨front, hstart, hfront⟩ := hfront
  obtain ⟨back, hafter, hback⟩ := hback
  exact ⟨front, back, by rw [hafter, hjournal, hstart], hfront, hback⟩

theorem World.NotesQuietly.notesAppends {uri : String} {rows : Nat} {before after : World}
    (h : before.NotesQuietly uri after) : before.NotesAppends uri rows [] after :=
  .of_journal h (List.append_nil _).symm (.refl after)

namespace Scenario

variable {storage : StorageMode} {uri : String} {clock : Clock}

/-- Appending batches records the versions that the appends return, and nothing else. -/
theorem appendBatches_ensures_journal (scenario : Scenario) (clock : Clock) (b : Nat)
    (starts : List Int64) (world : World) :
    (scenario.appendBatches ⟨uri⟩ clock b starts).Ensures world
      (fun versions after => versions = scenario.versionsFrom ⟨uri⟩ clock b starts world ∧
        versions.length = starts.length ∧
        after.journal = world.journal ++ versions.map fun version =>
          .batchAppended uri version scenario.plan.rowsPerBatch.toNat)
      fun _ after => after.journal = world.journal ++
        (scenario.versionsFrom ⟨uri⟩ clock b starts world).map fun version =>
          .batchAppended uri version scenario.plan.rowsPerBatch.toNat := by
  induction starts generalizing b world with
  | nil => exact Run.ensures_pure ⟨rfl, rfl, by simp⟩
  | cons start starts ih =>
    rw [appendBatches_cons]
    have happend := scenario.appendBatch_ensures ⟨uri⟩ clock b start world
    unfold versionsFrom
    cases hrun : (scenario.appendBatch ⟨uri⟩ clock b start).start world with
    | mk answer after =>
      cases answer with
      | error failure =>
        exact Run.ensures_bind (Run.ensures_of_start_error hrun
          (by simpa using happend.of_error hrun))
      | ok version =>
        obtain ⟨-, hjournal, -⟩ := happend.of_ok hrun
        refine Run.ensures_bind (Run.ensures_of_start hrun (Run.ensures_bind
          ((ih (b + 1) after).mono ?_ ?_)))
        · rintro versions last ⟨rfl, hlength, hlast⟩
          exact Run.ensures_pure ⟨rfl, by simp [hlength], by simp [hlast, hjournal]⟩
        · intro _ last hlast
          simp [hlast, hjournal]

/-- The versions that the appends return do not depend on what has been recorded before. -/
theorem versionsFrom_congr (scenario : Scenario) (clock : Clock) (b : Nat) (starts : List Int64)
    {first second : World} (h : first.SameView second) :
    scenario.versionsFrom ⟨uri⟩ clock b starts first =
      scenario.versionsFrom ⟨uri⟩ clock b starts second := by
  induction starts generalizing b first second with
  | nil => rfl
  | cons start starts ih =>
    have halike : (scenario.appendBatch ⟨uri⟩ clock b start).Alike World.SameView
        (scenario.appendBatch ⟨uri⟩ clock b start) :=
      (Run.alike_ofExcept _).bind fun rows => Table.alike_append ⟨uri⟩ rows _
    obtain ⟨hanswer, hrelated⟩ := halike h
    unfold versionsFrom
    generalize (scenario.appendBatch ⟨uri⟩ clock b start).start first = left at hanswer hrelated
    generalize (scenario.appendBatch ⟨uri⟩ clock b start).start second = right at hanswer hrelated
    obtain ⟨answer, after⟩ := left
    obtain ⟨answer', after'⟩ := right
    obtain rfl : answer = answer' := hanswer
    cases answer with
    | error failure => rfl
    | ok version => exact congrArg (version :: ·) (ih (b + 1) hrelated)

/-- The report of a scenario is about its address and has the versions of its appends. -/
theorem finish_ensures_report [Engine] (scenario : Scenario) (versions : List Nat) (world : World) :
    (scenario.finish uri versions).Ensures world
      (fun report _ => report.uri = uri ∧ report.appendVersions = versions) fun _ _ => True := by
  have hanything : ∀ {α : Type} (run : Run α) (world : World) {done : α → World → Prop},
      (∀ a after, done a after) → run.Ensures world done fun _ _ => True :=
    fun run world _ hdone => (Run.ensures_true run world).mono (fun a after _ => hdone a after)
      fun _ _ h => h
  exact Run.ensures_bind (hanything _ _ fun _ _ =>
    Run.ensures_bind (hanything _ _ fun _ _ => Run.ensures_bind (hanything _ _ fun _ _ =>
    Run.ensures_bind (hanything _ _ fun _ _ => Run.ensures_bind (hanything _ _ fun _ _ =>
    Run.ensures_pure ⟨rfl, rfl⟩)))))

theorem returnedVersions_eq (scenario : Scenario) {clock : Clock} {starts : List Int64}
    (huri : storage.tableUri scenario.table scenario.localRoot = .ok uri)
    (hstarts : scenario.plan.starts = .ok starts) (world : World) :
    scenario.returnedVersions storage clock world =
      match (scenario.removeTable storage uri).start world with
      | (.ok _, after) => scenario.versionsFrom ⟨uri⟩ clock 0 starts after
      | (.error _, _) => [] := by
  rw [returnedVersions, huri, hstarts]

/-- Without an address or first ids nothing is appended. -/
theorem returnedVersions_of_error (scenario : Scenario) {clock : Clock} {abort : Abort}
    (hstarts : scenario.plan.starts = .error abort) (world : World) :
    scenario.returnedVersions storage clock world = [] := by
  rw [returnedVersions, hstarts]
  cases storage.tableUri scenario.table scenario.localRoot <;> rfl

theorem returnedVersions_congr (scenario : Scenario) (storage : StorageMode) (clock : Clock)
    {first second : World} (h : first.SameView second) :
    scenario.returnedVersions storage clock first =
      scenario.returnedVersions storage clock second := by
  cases hstarts : scenario.plan.starts with
  | error abort => rw [returnedVersions_of_error _ hstarts, returnedVersions_of_error _ hstarts]
  | ok starts =>
    cases huri : storage.tableUri scenario.table scenario.localRoot with
    | error fault => simp only [returnedVersions, huri]
    | ok uri =>
      obtain ⟨hanswer, hrelated⟩ :=
        scenario.alike_removeTable (storage.alike_resetLocal uri) h
      rw [scenario.returnedVersions_eq huri hstarts, scenario.returnedVersions_eq huri hstarts]
      generalize (scenario.removeTable storage uri).start first = left at hanswer hrelated ⊢
      generalize (scenario.removeTable storage uri).start second = right at hanswer hrelated ⊢
      obtain ⟨answer, after⟩ := left
      obtain ⟨answer', after'⟩ := right
      obtain rfl : answer = answer' := hanswer
      cases answer with
      | error failure => rfl
      | ok _ => exact scenario.versionsFrom_congr clock 0 starts hrelated

/-- A scenario with an address records each append that returns a version, and otherwise quiet
events only.  If it succeeds, then all of its appends have returned the versions that it reports. -/
theorem run_ensures_journals [Engine] (scenario : Scenario)
    (huri : storage.tableUri scenario.table scenario.localRoot = .ok uri) (world : World) :
    (scenario.run storage clock).Ensures world
      (fun report after => report.uri = uri ∧
        report.appendVersions = scenario.returnedVersions storage clock world ∧
        report.appendVersions.length = scenario.plan.batches.toNat ∧
        world.NotesAppends uri scenario.plan.rowsPerBatch.toNat report.appendVersions after)
      fun _ after => world.NotesAppends uri scenario.plan.rowsPerBatch.toNat
        (scenario.returnedVersions storage clock world) after := by
  set selected : World :=
    { world with journal := world.journal ++ [.storageSelected uri storage.redactedOptions] }
  have hselected : world.NotesQuietly uri selected :=
    Run.respects_notesQuietly_record ⟨List.Subset.refl _, rfl, rfl⟩ world
  have hsame : world.SameView selected := ⟨rfl, fun _ => rfl⟩
  rw [scenario.returnedVersions_congr storage clock hsame, scenario.run_of_tableUri clock huri]
  refine Run.ensures_bind (Run.ensures_record (Run.ensures_bind ?_))
  have hremoved := scenario.respects_notesQuietly_removeTable storage uri selected
  cases hremove : (scenario.removeTable storage uri).start selected with
  | mk answer removed =>
    rw [hremove] at hremoved
    have hfront : world.NotesQuietly uri removed := hselected.trans hremoved
    cases hstarts : scenario.plan.starts with
    | error abort =>
      rw [scenario.returnedVersions_of_error hstarts]
      cases answer with
      | error failure => exact Run.ensures_of_start_error hremove hfront.notesAppends
      | ok _ => exact Run.ensures_of_start hremove (Run.ensures_throw hfront.notesAppends)
    | ok starts =>
      rw [scenario.returnedVersions_eq huri hstarts, hremove]
      cases answer with
      | error failure => exact Run.ensures_of_start_error hremove hfront.notesAppends
      | ok _ =>
        refine Run.ensures_of_start hremove ?_
        rw [Except.mapError, Run.ofExcept_ok, pure_bind]
        refine Run.ensures_bind ((scenario.appendBatches_ensures_journal clock 0 starts
          removed).mono ?_ fun _ after hjournal => .of_journal hfront hjournal (.refl after))
        rintro versions last ⟨rfl, hlength, hjournal⟩
        refine ((scenario.finish_ensures_report _ last).and
          ((scenario.respects_notesQuietly_finish _).ensures last)).mono ?_ ?_
        · rintro report after ⟨⟨hreportUri, hversions⟩, hback⟩
          rw [hversions, BatchPlan.length_of_starts hstarts] at *
          exact ⟨hreportUri, rfl, hlength, .of_journal hfront hjournal hback⟩
        · rintro _ after ⟨-, hback⟩
          exact .of_journal hfront hjournal hback

end Scenario

end LogTable
