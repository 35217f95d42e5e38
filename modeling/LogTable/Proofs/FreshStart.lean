import LogTable.Proofs.Containment
import LogTable.Proofs.Removal
import LogTable.Proofs.Scenario
import LogTable.Proofs.Table.Lockstep
import LogTable.Proofs.Table.Place

/-!
# Fresh starts

A scenario that removes its table first does not depend on what was there before, if what stands in
the place of the table can be removed (`FileTree.IsRemovable`).  After the removal the place is
vacant, so that two worlds that agree elsewhere have the same view, and all that follows is alike.
The directories that a run has added on its way make no difference to a second run either
(`Table.agreeFrom_placeForWriting`).  Main statement: `Scenario.same_outcome_of_reset`.
-/

namespace LogTable

open FileTree Predicate

/-! ### The removal -/

namespace Scenario

variable {scenario : Scenario} {uri : String} {world first second : World}

/-- A removal that succeeds leaves a vacant place, and changes nothing else. -/
theorem removeTable_ensures_isVacant
    (huri : StorageMode.localFiles.tableUri scenario.table scenario.localRoot = .ok uri)
    (hreset : scenario.reset = true) (h : world.tree.IsRemovable world.home uri) :
    (scenario.removeTable .localFiles uri).Ensures world
      (fun _ after => after.home = world.home ∧ after.tree.IsVacant (locate world.home uri) ∧
        world.tree.AgreeOutside (locate world.home uri) after.tree)
      fun _ _ => True := by
  unfold removeTable
  rw [if_pos hreset]
  refine Run.ensures_bind ((StorageMode.resetLocal_ensures_isCut huri world).mono ?_
    fun _ _ _ => trivial)
  intro removed after hafter
  refine Run.ensures_pure ?_
  split_ifs at hafter with hremoved
  · obtain ⟨-, hhome, -, hcut⟩ := hafter
    exact ⟨hhome, hcut.isVacant, hcut.agreeOutside⟩
  · obtain ⟨hresolve, rfl⟩ := hafter
    rcases h with hvacant | ⟨hfound, -⟩
    · exact ⟨rfl, hvacant, fun _ _ => rfl⟩
    · exact absurd (hresolve.symm.trans hfound) nofun

theorem start_removeTable (hreset : scenario.reset = true) :
    (scenario.removeTable .localFiles uri).start world =
      (((StorageMode.localFiles.resetLocal uri).start world).1.map fun _ => (),
        ((StorageMode.localFiles.resetLocal uri).start world).2) := by
  rw [removeTable, if_pos hreset, Run.start_bind]
  obtain ⟨_ | _, _⟩ := (StorageMode.localFiles.resetLocal uri).start world <;> rfl

/-- A directory that is found at the address of a name without slashes is removed. -/
theorem start_removeTable_of_findsDirectory
    (huri : StorageMode.localFiles.tableUri scenario.table scenario.localRoot = .ok uri)
    (hslash : '/' ∉ (trimSlashes scenario.table).toList) (hreset : scenario.reset = true)
    (h : world.tree.FindsDirectory world.home uri) :
    ((scenario.removeTable .localFiles uri).start world).1 = .ok () := by
  rw [start_removeTable hreset, StorageMode.start_resetLocal_of_findsDirectory huri hslash h]
  rfl

/-- Removals that both succeed agree. -/
theorem agreeFrom_removeTable_of_ok
    (huri : StorageMode.localFiles.tableUri scenario.table scenario.localRoot = .ok uri)
    (hreset : scenario.reset = true) (hhome : first.home = second.home)
    (houtside : first.tree.AgreeOutside (locate first.home uri) second.tree)
    (hfirst : first.tree.IsRemovable first.home uri)
    (hsecond : second.tree.IsRemovable second.home uri)
    (hok : ((scenario.removeTable .localFiles uri).start first).1 = .ok ())
    (hok' : ((scenario.removeTable .localFiles uri).start second).1 = .ok ()) :
    (scenario.removeTable .localFiles uri).AgreeFrom World.SameView
      (scenario.removeTable .localFiles uri) first second := by
  obtain ⟨hhome₁, hvacant₁, houtside₁⟩ :=
    (removeTable_ensures_isVacant huri hreset hfirst).of_ok (Prod.ext hok rfl)
  obtain ⟨hhome₂, hvacant₂, houtside₂⟩ :=
    (removeTable_ensures_isVacant huri hreset hsecond).of_ok (Prod.ext hok' rfl)
  rw [← hhome] at hvacant₂ houtside₂
  exact ⟨hok.trans hok'.symm, hhome₁.trans (hhome.trans hhome₂.symm),
    hvacant₁.sameView hvacant₂ ((houtside₁.symm.trans houtside).trans houtside₂)⟩

/-- In worlds that agree outside of a place that can be removed, the removals agree. -/
theorem agreeFrom_removeTable
    (huri : StorageMode.localFiles.tableUri scenario.table scenario.localRoot = .ok uri)
    (hslash : '/' ∉ (trimSlashes scenario.table).toList) (hreset : scenario.reset = true)
    (hhome : first.home = second.home)
    (houtside : first.tree.AgreeOutside (locate first.home uri) second.tree)
    (hfirst : first.tree.IsRemovable first.home uri)
    (hsecond : second.tree.IsRemovable second.home uri) :
    (scenario.removeTable .localFiles uri).AgreeFrom World.SameView
      (scenario.removeTable .localFiles uri) first second := by
  have hok_of_finds : ∀ {world : World}, world.tree.FindsDirectory world.home uri →
      ((scenario.removeTable .localFiles uri).start world).1 = .ok () :=
    start_removeTable_of_findsDirectory huri hslash hreset
  have hok_of_notFound : ∀ {world : World},
      world.tree.resolve world.home uri = .error .notFound →
      ((scenario.removeTable .localFiles uri).start world).1 = .ok () := fun hnone => by
    rw [start_removeTable hreset, StorageMode.start_resetLocal_of_error hnone, if_pos rfl]
    rfl
  have hagree := agreeFrom_removeTable_of_ok huri hreset hhome houtside hfirst hsecond
  rcases hfirst with hvacant | hfinds
  · rcases hsecond with hvacant' | hfinds'
    · -- both places are vacant, so the worlds have the same view from the start
      have hview : first.tree.SameView second.tree :=
        hvacant.sameView (hhome ▸ hvacant') houtside
      cases hresolve : first.tree.resolve first.home uri with
      | ok l => exact absurd hresolve (hvacant.resolve_ne_ok l)
      | error fault =>
        have hresolve' : second.tree.resolve second.home uri = .error fault := by
          rw [← hhome, ← hview.resolve_eq, hresolve]
        unfold Run.AgreeFrom
        rw [start_removeTable hreset, start_removeTable hreset,
          StorageMode.start_resetLocal_of_error hresolve,
          StorageMode.start_resetLocal_of_error hresolve']
        exact ⟨rfl, hhome, hview⟩
    · refine hagree (hok_of_notFound ?_) (hok_of_finds hfinds')
      exact hvacant.resolve_eq_notFound houtside (hhome ▸ hfinds'.1)
  · rcases hsecond with hvacant' | hfinds'
    · refine hagree (hok_of_finds hfinds) (hok_of_notFound ?_)
      rw [← hhome] at hvacant' ⊢
      exact hvacant'.resolve_eq_notFound houtside.symm hfinds.1
    · exact hagree (hok_of_finds hfinds) (hok_of_finds hfinds')

end Scenario

/-! ### The place of a vacant table -/

/-- A vacant place holds no table. -/
theorem FileTree.IsVacant.holds_none {tree : FileTree Content} {place : Location}
    (h : tree.IsVacant place) : Holds tree place none := by
  refine Log.read_eq_absent fun name content hfind => ?_
  rw [Log.directory, List.append_assoc, h _ (List.prefix_append _ _)] at hfind
  cases hfind

/-- Of two trees that differ by directories at locations with `P`, both have the same view if these
are directories in the smaller tree already. -/
theorem FileTree.AddsDirectories.sameView {α : Type} {before after : FileTree α}
    {P : Location → Prop} (h : AddsDirectories before after P)
    (hP : ∀ l, P l → before.find? l = some .directory) : before.SameView after := by
  intro l
  cases hl : before.find? l with
  | some e => exact (h.kept hl).symm
  | none =>
    cases hl' : after.find? l with
    | none => rfl
    | some e => exact absurd (hl.symm.trans (hP l (h.added hl hl').2)) nofun

/-- If a place is vacated before a confined change and after it, no more is left of the change than
the directories outside. -/
theorem FileTree.Confined.addsDirectories {α : Type} {top : Location} {outside : Location → Prop}
    {before after cleared cleared' : FileTree α} (h : Confined top outside before after)
    (hvacant : cleared.IsVacant top) (houtside : before.AgreeOutside top cleared)
    (hvacant' : cleared'.IsVacant top) (houtside' : after.AgreeOutside top cleared') :
    AddsDirectories cleared cleared' outside where
  kept {l e} hl := by
    have hnot : ¬ top <+: l := fun hprefix => by simp [hvacant l hprefix] at hl
    rw [← houtside' l hnot]
    exact h.kept hnot ((houtside l hnot).trans hl)
  added {l e} hnone hl := by
    have hnot : ¬ top <+: l := fun hprefix => by simp [hvacant' l hprefix] at hl
    exact h.added hnot ((houtside l hnot).trans hnone) ((houtside' l hnot).trans hl)

namespace Table

variable {table : Table} {world first second : World}

/-- Opening a store comes out the same if some directories on the way to the place are there
already, and all on the way of the path. -/
theorem agreeFrom_openStore {path : String} {home : Location} (hhome : first.home = second.home)
    (hadds : AddsDirectories first.tree second.tree (OnTheWay home path))
    (hway : ∀ l, Passes (pathStart home path) (pathSteps path) l →
      first.tree.find? l = some .directory)
    (hok : ((openStore (locate home path)).start first).1 = .ok ()) :
    (openStore (locate home path)).AgreeFrom World.SameView (openStore (locate home path)) first
      second := by
  unfold Run.AgreeFrom
  rw [start_openStore] at hok ⊢
  rw [start_openStore]
  split_ifs at hok ⊢ with htwin
  · refine ⟨rfl, hhome, hadds.sameView ?_⟩
    rintro l (hl | ⟨hne, -⟩)
    · exact hway l hl
    · exact absurd htwin hne
  · cases hmade : (first.tree.makeDirectories [] (twin (locate home path))).1 with
    | error fault => simp [hmade, Except.map, Except.mapError] at hok
    | ok l =>
      obtain ⟨hmade', hadds'⟩ := makeDirectories_of_addsDirectories hmade hadds
      refine ⟨by rw [hmade'], hhome, hadds'.sameView ?_⟩
      rintro l (hl | ⟨-, hl⟩)
      · exact (makeDirectories_addsDirectories _ _ _).kept (hway l hl)
      · exact find?_of_passes hmade hl

/-- The place of a vacant table comes out the same if some directories on the way to it are there
already. -/
theorem agreeFrom_placeForWriting
    (hlast : (fullNames table.uri).getLast? ≠ some ".") (hhome : first.home = second.home)
    (hvacant : first.tree.IsVacant (locate first.home table.uri))
    (hfound : second.tree.resolve second.home table.uri = .error .notFound)
    (hadds : AddsDirectories first.tree second.tree (OnTheWay first.home table.uri))
    {place : Location} (hok : (table.placeForWriting.start first).1 = .ok place) :
    table.placeForWriting.AgreeFrom World.SameView table.placeForWriting first second := by
  obtain ⟨haddress, hplace⟩ := createDirectories_of_start_placeForWriting hok
  have hfound' : first.tree.resolve first.home table.uri = .error .notFound := by
    cases hresolve : first.tree.resolve first.home table.uri with
    | ok l => exact absurd hresolve (hvacant.resolve_ne_ok l)
    | error fault =>
      cases fault with
      | notFound => rfl
      | _ => simp [createDirectories, hresolve] at hplace
  have hmade := createDirectories_of_notFound hfound' hlast
  have hmade' := createDirectories_of_notFound hfound hlast
  rw [← hhome] at hmade'
  obtain rfl := eq_locate_of_createDirectories hplace
  have hplace₁ := hplace
  rw [hmade] at hplace₁
  obtain ⟨hplace₂, hmiddle⟩ := makeDirectories_of_addsDirectories hplace₁ hadds
  have hplace' : (second.tree.createDirectories second.home table.uri).1 =
      .ok (locate first.home table.uri) := by
    rw [← hhome, hmade', hplace₂]
  unfold Run.AgreeFrom
  rw [start_placeForWriting haddress hplace] at hok ⊢
  rw [start_placeForWriting haddress hplace', hmade, ← hhome, hmade']
  obtain ⟨_, _, hopen, -⟩ := Run.exists_of_start_bind_eq_ok (Prod.ext hok rfl)
  rw [hmade] at hopen
  refine Run.AgreeFrom.bind (agreeFrom_openStore ?_ hmiddle ?_ (congrArg Prod.fst hopen))
    fun _ _ => Run.alike_pure _
  · rfl
  · exact fun l hl => find?_of_passes hplace₁ hl

end Table

/-! ### Whole scenarios -/

namespace Scenario

variable {scenario : Scenario} {uri : String} {clock : Clock} {world after first second : World}

/-- In worlds that agree outside of a place that can be removed, a scenario that removes its table
does the same. -/
theorem agreeFrom_run [Engine] (clock : Clock)
    (huri : StorageMode.localFiles.tableUri scenario.table scenario.localRoot = .ok uri)
    (hslash : '/' ∉ (trimSlashes scenario.table).toList) (hreset : scenario.reset = true)
    (hhome : first.home = second.home)
    (houtside : first.tree.AgreeOutside (locate first.home uri) second.tree)
    (hfirst : first.tree.IsRemovable first.home uri)
    (hsecond : second.tree.IsRemovable second.home uri) :
    (scenario.run .localFiles clock).AgreeFrom World.SameView (scenario.run .localFiles clock) first
      second := by
  rw [scenario.run_of_tableUri clock huri]
  refine Run.AgreeFrom.record_bind (Run.AgreeFrom.bind
    (agreeFrom_removeTable huri hslash hreset hhome houtside hfirst hsecond) fun _ _ => ?_)
  have halike := Operations.areAlike_sameView .localFiles uri
  exact (Run.alike_ofExcept _).bind fun starts =>
    (scenario.alike_appendBatches (halike.append · _) clock 0 starts).bind fun versions =>
      scenario.alike_finish halike versions

/-- Appends that succeed come out the same as soon as the places of the first one do. -/
theorem agreeFrom_appendBatches {table : Table} {b : Nat} {start : Int64}
    {starts : List Int64} {versions : List Nat}
    (hplace : ∀ place, (table.placeForWriting.start first).1 = .ok place →
      table.placeForWriting.AgreeFrom World.SameView table.placeForWriting first second)
    (hok : ((scenario.appendBatches table clock b (start :: starts)).start first).1 =
      .ok versions) :
    (scenario.appendBatches table clock b (start :: starts)).AgreeFrom World.SameView
      (scenario.appendBatches table clock b (start :: starts)) first second := by
  rw [appendBatches] at hok ⊢
  cases hrows : Batch.generate start scenario.plan.rowsPerBatch.toNat (clock b)
      scenario.message with
  | error failure =>
    rw [hrows] at hok
    cases hok
  | ok rows =>
    rw [hrows, Run.ofExcept_ok, pure_bind] at hok
    rw [Run.ofExcept_ok, pure_bind]
    obtain ⟨_, _, happend, -⟩ := Run.exists_of_start_bind_eq_ok (Prod.ext hok rfl)
    obtain ⟨place, _, hplaced, -⟩ := Run.exists_of_start_bind_eq_ok happend
    have hopens := Table.opensAlike_of_agreeFrom (hplace place (congrArg Prod.fst hplaced))
    exact (Table.agreeFrom_append rows _ hopens).bind fun _ _ =>
      (scenario.alike_appendBatches (table.alike_append · _) clock (b + 1) starts).bind fun _ =>
        Run.alike_pure _

/-- A scenario reports the versions of its appends, and leads to a table that is found again. -/
theorem finish_ensures [Engine] (scenario : Scenario) (uri : String) (appendVersions : List Nat)
    (world : World) :
    (scenario.finish uri appendVersions).Ensures world
      (fun report after => report.appendVersions = appendVersions ∧ Table.IsReady ⟨uri⟩ after)
      fun _ _ => True := by
  refine Run.ensures_bind ((Run.ensures_true _ _).mono (fun _ _ _ => ?_) fun _ _ h => h)
  refine Run.ensures_bind ((Run.ensures_true _ _).mono (fun _ middle _ => ?_) fun _ _ h => h)
  refine Run.ensures_bind (Run.ensures_bind ((Table.scan_ensures ⟨uri⟩ middle).mono ?_
    fun _ _ _ => trivial))
  rintro answer after ⟨-, hready, -, -⟩
  refine Run.ensures_pure (Run.ensures_bind (Run.ensures_ofExcept (fun _ _ => ?_)
    fun _ _ => trivial))
  exact Run.ensures_bind (Run.ensures_record (Run.ensures_pure
    ⟨rfl, hready.of_kept rfl fun _ hl => hl⟩))

/-- A world in which the address of a table has been recorded. -/
def selected (world : World) (uri : String) : World :=
  { world with
    journal := world.journal ++ [.storageSelected uri StorageMode.localFiles.redactedOptions] }

/-- The parts of a scenario that succeeds. -/
theorem exists_of_start_run_eq_ok [Engine]
    (huri : StorageMode.localFiles.tableUri scenario.table scenario.localRoot = .ok uri)
    {report : ScenarioReport}
    (hrun : (scenario.run .localFiles clock).start world = (.ok report, after)) :
    ∃ cleared appended start starts versions,
      (scenario.removeTable .localFiles uri).start (selected world uri) = (.ok (), cleared) ∧
      scenario.plan.starts = .ok (start :: starts) ∧
      (scenario.appendBatches ⟨uri⟩ clock 0 (start :: starts)).start cleared =
        (.ok versions, appended) ∧
      (scenario.finish uri versions).start appended = (.ok report, after) := by
  rw [scenario.run_of_tableUri clock huri, Run.start_bind, Run.start_record] at hrun
  obtain ⟨⟨⟩, cleared, hcleared, hrun⟩ := Run.exists_of_start_bind_eq_ok hrun
  cases hstarts : scenario.plan.starts with
  | error abort =>
    rw [hstarts] at hrun
    cases hrun
  | ok starts =>
    obtain ⟨start, starts, rfl⟩ := BatchPlan.exists_cons_of_starts hstarts
    rw [hstarts, Except.mapError, Run.ofExcept_ok, pure_bind] at hrun
    obtain ⟨versions, appended, happended, hrun⟩ := Run.exists_of_start_bind_eq_ok hrun
    exact ⟨cleared, appended, start, starts, versions, hcleared, rfl, happended, hrun⟩

/-- From the worlds that two removals leave, a scenario goes on alike if its first appends find the
same place. -/
theorem agreeFrom_run_of_removeTable [Engine] {cleared cleared' appended : World} {start : Int64}
    {starts : List Int64} {versions : List Nat}
    (huri : StorageMode.localFiles.tableUri scenario.table scenario.localRoot = .ok uri)
    (hcleared : (scenario.removeTable .localFiles uri).start (selected first uri) =
      (.ok (), cleared))
    (hcleared' : (scenario.removeTable .localFiles uri).start (selected second uri) =
      (.ok (), cleared'))
    (hstarts : scenario.plan.starts = .ok (start :: starts))
    (happended : (scenario.appendBatches ⟨uri⟩ clock 0 (start :: starts)).start cleared =
      (.ok versions, appended))
    (hplace : ∀ place, ((Table.placeForWriting ⟨uri⟩).start cleared).1 = .ok place →
      (Table.placeForWriting ⟨uri⟩).AgreeFrom World.SameView (Table.placeForWriting ⟨uri⟩) cleared
        cleared') :
    (scenario.run .localFiles clock).AgreeFrom World.SameView (scenario.run .localFiles clock) first
      second := by
  rw [scenario.run_of_tableUri clock huri, hstarts]
  refine Run.AgreeFrom.record_bind ?_
  unfold Run.AgreeFrom
  rw [Run.start_bind, Run.start_bind]
  unfold selected at hcleared hcleared'
  simp only [hcleared, hcleared']
  exact (agreeFrom_appendBatches hplace (congrArg Prod.fst happended)).bind
    fun versions _ => scenario.alike_finish (Operations.areAlike_sameView .localFiles uri) versions

/-- A scenario that removes its table and succeeds numbers its versions from zero on, and the same
scenario after it does the same again. -/
theorem agreeFrom_run_again [Engine]
    (huri : StorageMode.localFiles.tableUri scenario.table scenario.localRoot = .ok uri)
    (hslash : '/' ∉ (trimSlashes scenario.table).toList) (hreset : scenario.reset = true)
    (hworld : world.tree.IsRemovable world.home uri) {report : ScenarioReport}
    (hrun : (scenario.run .localFiles clock).start world = (.ok report, after)) :
    report.appendVersions = List.range' 0 scenario.plan.batches.toNat ∧
      (scenario.run .localFiles clock).AgreeFrom World.SameView (scenario.run .localFiles clock)
        world after := by
  have hne : locate world.home uri ≠ [] := by
    obtain ⟨segment, -, -, hlocate⟩ := StorageMode.locate_of_tableUri huri world.home
    simp [hlocate]
  obtain ⟨hhome, hconfined⟩ := scenario.respects_run
    (Operations.respect_staysWithin .localFiles world.home hne) clock huri world rfl
  rw [hrun] at hhome hconfined
  simp only at hhome hconfined
  obtain ⟨cleared, appended, start, starts, versions, hcleared, hstarts, happended, hfinish⟩ :=
    exists_of_start_run_eq_ok huri hrun
  obtain ⟨hreported, hready⟩ := (scenario.finish_ensures uri versions appended).of_ok hfinish
  -- the place is vacant after the first removal, and so it is after the second one
  have hselected : (selected world uri).tree.IsRemovable (selected world uri).home uri := hworld
  obtain ⟨hhome₁, hvacant₁, houtside₁⟩ :=
    (removeTable_ensures_isVacant huri hreset hselected).of_ok hcleared
  have hfinds : (selected after uri).tree.FindsDirectory (selected after uri).home uri :=
    ⟨hready.found, hready.isDirectory⟩
  have hok := start_removeTable_of_findsDirectory huri hslash hreset hfinds
  have hcleared₂ : (scenario.removeTable .localFiles uri).start (selected after uri) =
      (.ok (), ((scenario.removeTable .localFiles uri).start (selected after uri)).2) :=
    Prod.ext hok rfl
  obtain ⟨hhome₂, hvacant₂, houtside₂⟩ :=
    (removeTable_ensures_isVacant huri hreset (Or.inr hfinds)).of_ok hcleared₂
  refine ⟨?_, agreeFrom_run_of_removeTable huri hcleared hcleared₂ hstarts happended
    fun place hplace => ?_⟩
  · have habsent : Holds cleared.tree (locate cleared.home (Table.mk uri).uri) none := by
      rw [hhome₁]
      exact hvacant₁.holds_none
    obtain ⟨-, hversions, -⟩ :=
      (scenario.appendBatches_ensures clock habsent 0 (start :: starts)).of_ok happended
    rw [hreported, hversions, ← BatchPlan.length_of_starts hstarts]
    rfl
  · obtain ⟨hlast, -, hdot, -⟩ := StorageMode.getLast?_fullNames huri hslash
    have hhome' : cleared.home = ((scenario.removeTable .localFiles uri).start
        (selected after uri)).2.home := hhome₁.trans (hhome.symm.trans hhome₂.symm)
    refine Table.agreeFrom_placeForWriting ?_ hhome' ?_ ?_ ?_ hplace
    · rw [hlast]
      exact fun h => hdot (Option.some.inj h)
    · rw [hhome₁]
      exact hvacant₁
    · rw [hhome₂]
      exact hvacant₂.resolve_eq_notFound houtside₂.symm hready.found
    · rw [hhome₁]
      refine hconfined.addsDirectories hvacant₁ houtside₁ ?_ ?_
      · rw [← hhome]
        exact hvacant₂
      · rw [← hhome]
        exact houtside₂

/-- A scenario that removes its table first does the same in worlds that agree elsewhere: it has the
same report or failure, and leaves the same files.  If it succeeds, its versions start from zero,
and the same scenario after it has the same report again and leaves the same files. -/
theorem same_outcome_of_reset [Engine]
    (huri : StorageMode.localFiles.tableUri scenario.table scenario.localRoot = .ok uri)
    (hslash : '/' ∉ (trimSlashes scenario.table).toList) (hreset : scenario.reset = true)
    (hhome : first.home = second.home)
    (houtside : first.tree.AgreeOutside (locate first.home uri) second.tree)
    (hfirst : first.tree.IsRemovable first.home uri)
    (hsecond : second.tree.IsRemovable second.home uri)
    {answer answer' : Except Failure ScenarioReport} {after after' : World}
    (hrun : (scenario.run .localFiles clock).start first = (answer, after))
    (hrun' : (scenario.run .localFiles clock).start second = (answer', after')) :
    answer = answer' ∧ after.tree.SameView after'.tree ∧
      ∀ report, answer = .ok report →
        report.appendVersions = List.range' 0 scenario.plan.batches.toNat ∧
          ∃ again, (scenario.run .localFiles clock).start after = (.ok report, again) ∧
            again.tree.SameView after.tree := by
  have hagree := agreeFrom_run clock huri hslash hreset hhome houtside hfirst hsecond
  rw [Run.AgreeFrom, hrun, hrun'] at hagree
  obtain ⟨hanswer, -, hview⟩ := hagree
  refine ⟨hanswer, hview, fun report hreport => ?_⟩
  rw [hreport] at hrun
  obtain ⟨hversions, hagain⟩ := agreeFrom_run_again huri hslash hreset hfirst hrun
  rw [Run.AgreeFrom, hrun] at hagain
  cases hrun'' : (scenario.run .localFiles clock).start after with
  | mk answer'' again =>
    rw [hrun''] at hagain
    obtain ⟨rfl, -, hview'⟩ := hagain
    exact ⟨hversions, again, rfl, hview'.symm⟩

/-- On a machine with a table, and on the same machine without it. -/
theorem same_outcome_of_reset_with_and_without :
    let first := ((Table.append ⟨"./t/"⟩ [⟨1, "a", 0, "odd_user"⟩] []).start .fresh).2
    let second : World :=
      { first with tree := (first.tree.removeBelow ["work", "t"]).remove ["work", "t"] }
    let scenario : Scenario :=
      { standard with table := "t", plan := ⟨1, 1, by decide, by decide⟩, checkpoint := false }
    ∃ after after',
      (scenario.run .localFiles fun _ => ⟨0⟩).start first =
          (.ok ⟨"./t/", [0], 1, none, ⟨1, 0, 0⟩⟩, after) ∧
        (scenario.run .localFiles fun _ => ⟨0⟩).start second =
          (.ok ⟨"./t/", [0], 1, none, ⟨1, 0, 0⟩⟩, after') ∧
        after.tree.SameView after'.tree := by
  intro first second scenario
  have hplace : locate first.home "./t/" = ["work", "t"] := by decide +kernel
  have hcut : IsCut (locate first.home "./t/") first.tree second.tree := by
    rw [hplace]
    exact isCut_remove first.tree (by decide)
  have hfinds : first.tree.FindsDirectory first.home "./t/" :=
    ⟨by decide +kernel, isDirectory_eq_true.mp (by decide +kernel)⟩
  have huri : StorageMode.localFiles.tableUri scenario.table scenario.localRoot = .ok "./t/" := by
    decide +kernel
  have hhome : first.home = second.home := rfl
  have hreport : ((scenario.run .localFiles fun _ => ⟨0⟩).start first).1 =
      .ok ⟨"./t/", [0], 1, none, ⟨1, 0, 0⟩⟩ := by decide +kernel
  cases hrun : (scenario.run .localFiles fun _ => ⟨0⟩).start first with
  | mk answer after =>
    cases hrun' : (scenario.run .localFiles fun _ => ⟨0⟩).start second with
    | mk answer' after' =>
      rw [hrun] at hreport
      obtain ⟨heq, hview, -⟩ := same_outcome_of_reset huri (by decide +kernel) rfl hhome
        hcut.agreeOutside (Or.inr hfinds) (Or.inl hcut.isVacant) hrun hrun'
      obtain rfl : answer = _ := hreport
      obtain rfl : _ = answer' := heq
      exact ⟨after, after', rfl, rfl, hview⟩

/-- With a root that leads through a directory that is missing, the table in the place is continued:
the same scenario reports other versions where it was, and other versions when it is run again. -/
theorem other_outcome_despite_reset :
    let first := ((Table.append ⟨"./t/"⟩ [⟨1, "a", 0, "odd_user"⟩] []).start .fresh).2
    let second : World :=
      { first with tree := (first.tree.removeBelow ["work", "t"]).remove ["work", "t"] }
    let scenario : Scenario :=
      { standard with table := "t", localRoot := "a/..", plan := ⟨1, 1, by decide, by decide⟩,
                      deletePredicate := none, checkpoint := false }
    let run := scenario.run .localFiles fun _ => ⟨0⟩
    StorageMode.localFiles.tableUri scenario.table scenario.localRoot = .ok "a/../t/" ∧
      '/' ∉ (trimSlashes scenario.table).toList ∧ scenario.reset = true ∧
      locate first.home "a/../t/" = ["work", "t"] ∧
      first.tree.AgreeOutside ["work", "t"] second.tree ∧
      first.tree.find? ["work", "t"] = some .directory ∧ second.tree.IsVacant ["work", "t"] ∧
      (run.start first).1 = .ok ⟨"a/../t/", [1], 0, none, ⟨1, 2, 2⟩⟩ ∧
      (run.start second).1 = .ok ⟨"a/../t/", [0], 0, none, ⟨0, 1, 1⟩⟩ ∧
      (run.start (run.start first).2).1 = .ok ⟨"a/../t/", [0], 0, none, ⟨0, 1, 1⟩⟩ := by
  intro first second scenario run
  have hcut : IsCut ["work", "t"] first.tree second.tree := isCut_remove first.tree (by decide)
  refine ⟨?_, ?_, rfl, ?_, hcut.agreeOutside, isDirectory_eq_true.mp ?_, hcut.isVacant, ?_, ?_, ?_⟩
  all_goals decide +kernel

end Scenario

end LogTable
