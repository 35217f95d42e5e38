import LogTable.Proofs.Table.Agreement
import LogTable.Proofs.Table.Complete
import LogTable.Proofs.Turns

/-!
# Checkpoints and readers are neutral

What a table comes to does not depend on its checkpoints, as long as its log is complete.  So two
worlds that differ in the checkpoint files of a table, and in directories that only readers have
made on the way to its twin (`Table.SameButCheckpoints`), are told apart by nothing that is done to
the table (`Operations.areAlike_sameButCheckpoints`), and a checkpoint or a reader in one of them
keeps them so (`Step.IsNeutral.sameButCheckpoints`).

Main statement: `Step.neutral_insertions`, by which steps on a table that starts from nothing are
answered the same with and without checkpoints and readers in between.
-/

namespace LogTable

open FileTree Predicate

namespace Table

/-! ### Open tables -/

variable {place : Location} {onTheWay : Location → Prop} {before after : FileTree Content}

/-- A deletion keeps all directories. -/
theorem Deleted.kept [Engine] {predicate : String} {outcome : DeleteOutcome}
    (h : Deleted place onTheWay predicate outcome before after) {l : Location}
    (hl : before.find? l = some .directory) : after.find? l = some .directory := by
  obtain ⟨snapshot, condition, middle, deletion, -, -, -, -, -, hcarriedOut⟩ := h
  rcases hcarriedOut with ⟨-, -, hgrowth⟩ | ⟨-, -, files, hwrites⟩
  · exact hgrowth.kept hl
  · exact hwrites.kept hl

/-- Where a table can be read, the store is open. -/
def OpenIfReadable (place : Location) (tree : FileTree Content) : Prop :=
  ∀ snapshot, Log.read tree place = .table snapshot → IsOpen tree place

/-- Tables that can be read stay in open stores. -/
theorem isInvariant_openIfReadable [Engine] (place : Location) (onTheWay : Location → Prop) :
    IsInvariant place onTheWay (OpenIfReadable place) where
  of_absent habsent snapshot hread := absurd (habsent.symm.trans hread) nofun
  of_growth {before after} h hgrowth snapshot hread :=
    (h snapshot (hgrowth.read_eq ▸ hread)).of_kept fun _ hl => hgrowth.kept hl
  of_appended {before after partitionBy rows version lost} _ hopen happended snapshot hread := by
    cases lost with
    | false => exact hopen rfl
    | true => exact absurd ((Holds.read_of_appended_lost happended).symm.trans hread) nofun
  of_deleted {before after predicate outcome} h hdeleted snapshot hread := by
    obtain ⟨snapshot', -, -, -, hread', -⟩ := id hdeleted
    exact (h snapshot' hread').of_kept fun _ hl => hdeleted.kept hl
  of_checkpointed h hcheckpointed snapshot hread :=
    (h _ hcheckpointed.1).of_kept fun _ hl => hcheckpointed.kept hl

/-- A reader that gets to the place of a table has found a directory there. -/
theorem found_of_start_placeForReading {table : Table} {world after : World} {place : Location}
    (hrun : table.placeForReading.start world = (.ok place, after)) :
    Address.ofUri table.uri = .directory table.uri ∧
      world.tree.resolve world.home table.uri = .ok (locate world.home table.uri) ∧
      world.tree.find? (locate world.home table.uri) = some .directory := by
  unfold placeForReading at hrun
  cases haddress : Address.ofUri table.uri with
  | store => simp [haddress] at hrun
  | unknown => simp [haddress] at hrun
  | directory path =>
    obtain rfl := eq_of_ofUri_eq_directory haddress
    rw [haddress] at hrun
    simp only [Run.start_bind, Run.start_tree, Run.start_home] at hrun
    cases hresolve : world.tree.resolve world.home table.uri with
    | error fault => simp [hresolve] at hrun
    | ok found =>
      obtain rfl := eq_locate_of_resolve hresolve
      refine ⟨rfl, rfl, ?_⟩
      cases hdirectory : world.tree.isDirectory (locate world.home table.uri) with
      | false => simp [hresolve, hdirectory] at hrun
      | true => exact isDirectory_eq_true.mp hdirectory

/-- A reader that gets to a place whose store is open leaves everything as it is. -/
theorem eq_of_start_placeForReading {table : Table} {world after : World} {place : Location}
    (hopen : IsOpen world.tree (locate world.home table.uri))
    (hrun : table.placeForReading.start world = (.ok place, after)) :
    place = locate world.home table.uri ∧ after = world := by
  obtain ⟨haddress, hfound, hdirectory⟩ := found_of_start_placeForReading hrun
  have hready : table.IsReady world := ⟨haddress, hfound, hdirectory, hopen⟩
  rcases start_placeForReading_cases table world with hfailed | hsame
  · rw [hrun] at hfailed
    cases hfailed
  · rw [hrun, start_placeForWriting_of_isReady hready] at hsame
    cases hsame
    exact ⟨rfl, rfl⟩

/-- A checkpoint in an open store writes the checkpoint file and its pointer, and nothing else. -/
theorem checkpoint_ensures_of_openIfReadable (table : Table) {world : World}
    (h : OpenIfReadable (locate world.home table.uri) world.tree) :
    table.checkpoint.Ensures world
      (fun version after => after.home = world.home ∧ ∀ l,
        l ≠ Log.checkpointPath (locate world.home table.uri) version →
        l ≠ Log.pointerPath (locate world.home table.uri) →
          after.tree.find? l = world.tree.find? l)
      fun _ _ => True := by
  cases hrun : table.checkpoint.start world with
  | mk answer after =>
    cases answer with
    | error failure => exact Run.ensures_of_start_error hrun trivial
    | ok version =>
      -- a success says that there is a table, so that the store is open
      obtain ⟨snapshot, -, hchanges, -⟩ := (table.checkpoint_ensures world).of_ok hrun
      have hopen := h snapshot hchanges.tree.1
      obtain ⟨place, opened, hplace, -⟩ := Run.exists_of_start_bind_eq_ok hrun
      obtain ⟨rfl, rfl⟩ := eq_of_start_placeForReading hopen hplace
      unfold checkpoint
      refine Run.ensures_bind (Run.ensures_of_start hplace ?_)
      refine Run.ensures_bind ((snapshotAt_ensures _ opened).mono ?_ fun _ _ _ => trivial)
      rintro snapshot _ ⟨rfl, -⟩
      refine Run.ensures_bind ((replaceFile_ensures _ _ _).mono ?_ fun _ _ _ => trivial)
      rintro _ _ ⟨-, rfl⟩
      refine Run.ensures_bind ((replaceFile_ensures _ _ _).mono ?_ fun _ _ _ => trivial)
      rintro _ _ ⟨-, rfl⟩
      refine Run.ensures_bind (Run.ensures_record (Run.ensures_pure ⟨rfl, ?_⟩))
      intro l hcheckpoint hpointer
      rw [find?_put _ _ _ Log.pointerPath_ne_nil, if_neg hpointer,
        find?_put _ _ _ Log.checkpointPath_ne_nil, if_neg hcheckpoint]

/-! ### Worlds that are the same but for checkpoints -/

variable {home : Location} {uri : String}

/-- The trees agree at the table of a path in all but the contents of its checkpoint files. -/
abbrev AgreeButCheckpoints (home : Location) (uri : String) :
    FileTree Content → FileTree Content → Prop :=
  AgreeAt (fun path => ¬ IsCheckpointFile path) home uri

/-- Two worlds are the same at the table of a path but for the checkpoints, and the place is in
order in both. -/
structure SameButCheckpoints (home : Location) (uri : String) (first second : World) : Prop where
  home_eq : first.home = home
  related : World.Related (AgreeButCheckpoints home uri) first second
  isInOrder : IsInOrder first.tree (locate home uri)
  isInOrder' : IsInOrder second.tree (locate home uri)

/-- A world is the same as itself. -/
theorem SameButCheckpoints.refl {world : World} (hhome : world.home = home)
    (h : IsInOrder world.tree (locate home uri)) : SameButCheckpoints home uri world world where
  home_eq := hhome
  related := ⟨rfl, AgreeAt.refl world.tree⟩
  isInOrder := h
  isInOrder' := h

/-- Trees that agree in all but the checkpoints have the same commits. -/
theorem commits_eq_of_agreeButCheckpoints {first second : FileTree Content}
    (h : AgreeButCheckpoints home uri first second) :
    Log.commits first (locate home uri) = Log.commits second (locate home uri) := by
  refine Log.eq_of_mem_iff (Log.pairwise_commits _ _) (Log.pairwise_commits _ _) ?_
  intro version content
  rw [Log.mem_commits_iff, Log.mem_commits_iff, commitPath_eq,
    h.below _ (not_isCheckpointFile_commit version)]

/-- Places in order are read alike in trees that agree in all but the checkpoints. -/
theorem readsAlike_of_isInOrder {first second : FileTree Content}
    (h : AgreeButCheckpoints home uri first second) (hfirst : IsInOrder first (locate home uri))
    (hsecond : IsInOrder second (locate home uri)) :
    ReadsAlike (locate home uri) (AgreeButCheckpoints home uri) first second where
  read_eq := by
    rw [hfirst.complete.read_eq, hsecond.complete.read_eq, Log.replayed, Log.replayed,
      commits_eq_of_agreeButCheckpoints h]
  rows?_eq snapshot hread file hfile first' second' h' := by
    have hpath := (hfirst.isStored hread).isDataPath file hfile
    have hfind := h'.below file.path (not_isCheckpointFile_of_isDataPath hpath)
    rw [DataFile.rows?, FileTree.content?, hfind, DataFile.rows?, FileTree.content?]

/-- A run that opens the place by growth opens it alike in worlds that are the same but for the
checkpoints. -/
theorem SameButCheckpoints.opensAlike [Engine] {run : Run Location} {world world' : World}
    (h : SameButCheckpoints home uri world world')
    (hagree : run.AgreeFrom (World.Related (AgreeButCheckpoints home uri)) run world world')
    (hgrows : ∀ start : World, run.Ensures start
      (fun place after => place = locate start.home uri ∧
        start.Grows (locate start.home uri) (OnTheWay start.home uri) after) fun _ _ => True) :
    OpensAlike (AgreeButCheckpoints home uri) run world world' := by
  have hhome : world'.home = home := h.related.1.symm.trans h.home_eq
  refine opensAlike_of_agreeAt (fun path hpath => hpath) hagree ?_ ?_
  · intro place after hrun
    rw [((hgrows world).of_ok hrun).1, h.home_eq]
  · intro after after' hrun hrun' hrelated
    have hgrowth := ((hgrows world).of_ok hrun).2.tree
    have hgrowth' := ((hgrows world').of_ok hrun').2.tree
    rw [h.home_eq] at hgrowth
    rw [hhome] at hgrowth'
    have hinvariant := isInvariant_isInOrder (locate home uri) (OnTheWay home uri)
    exact readsAlike_of_isInOrder hrelated.2 (hinvariant.of_growth h.isInOrder hgrowth)
      (hinvariant.of_growth h.isInOrder' hgrowth')

theorem SameButCheckpoints.opensAlike_placeForWriting [Engine] {world world' : World}
    (h : SameButCheckpoints home uri world world') :
    OpensAlike (AgreeButCheckpoints home uri) (placeForWriting ⟨uri⟩) world world' := by
  refine h.opensAlike (agreeFrom_placeForWriting_of_agreeAt h.related h.home_eq) fun start => ?_
  refine (placeForWriting_ensures ⟨uri⟩ start).mono ?_ fun _ _ _ => trivial
  rintro place after ⟨hplace, hgrows, -⟩
  exact ⟨hplace, hgrows⟩

theorem SameButCheckpoints.opensAlike_placeForReading [Engine] {world world' : World}
    (h : SameButCheckpoints home uri world world') :
    OpensAlike (AgreeButCheckpoints home uri) (placeForReading ⟨uri⟩) world world' := by
  refine h.opensAlike (agreeFrom_placeForReading_of_agreeAt h.related h.home_eq) fun start => ?_
  refine (placeForReading_ensures ⟨uri⟩ start).mono ?_ fun _ _ _ => trivial
  rintro place after ⟨hplace, hgrows, -⟩
  exact ⟨hplace, hgrows⟩

/-- What keeps places in order, and does the same up to checkpoints, does the same in worlds that
are the same but for the checkpoints. -/
theorem SameButCheckpoints.agreeFrom {α : Type} {run : Run α} {world world' : World}
    (h : SameButCheckpoints home uri world world')
    (hstays : run.Respects (Stays home fun tree => IsInOrder tree (locate home uri)))
    (hagree : run.AgreeFrom (World.Related (AgreeButCheckpoints home uri)) run world world') :
    run.AgreeFrom (SameButCheckpoints home uri) run world world' := by
  have hhome : world'.home = home := h.related.1.symm.trans h.home_eq
  obtain ⟨hafter, hordered⟩ := hstays world h.home_eq h.isInOrder
  obtain ⟨-, hordered'⟩ := hstays world' hhome h.isInOrder'
  exact ⟨hagree.1, hafter, hagree.2, hordered, hordered'⟩

end Table

/-- All that is done to the table of an accepted name without slashes does the same in worlds that
are the same but for its checkpoints. -/
theorem Operations.areAlike_sameButCheckpoints [Engine] {name root uri : String}
    (huri : StorageMode.localFiles.tableUri name root = .ok uri) (home : Location) :
    AreAlike (Table.SameButCheckpoints home uri) .localFiles uri := by
  have hstays := Operations.respect_stays
    (Table.isInvariant_isInOrder (locate home uri) (Table.OnTheWay home uri))
  constructor
  · intro event world world' h
    exact h.agreeFrom (Run.respects_record hstays.evolution event)
      (Run.alike_record event event h.related)
  · intro rows partitionBy world world' h
    exact h.agreeFrom (hstays.append rows partitionBy)
      (Table.agreeFrom_append rows partitionBy h.opensAlike_placeForWriting)
  · intro predicate world world' h
    exact h.agreeFrom (hstays.delete predicate)
      (Table.agreeFrom_delete predicate h.opensAlike_placeForWriting)
  · intro world world' h
    exact h.agreeFrom hstays.checkpoint (Table.agreeFrom_checkpoint h.opensAlike_placeForReading)
  · intro world world' h
    exact h.agreeFrom hstays.scan (Table.agreeFrom_scan h.opensAlike_placeForReading)
  · intro world world' h
    have hlast := StorageMode.getLast?_fullNames_ne_up huri
    have hremoved := h.related.2.removeDirectory hlast
      (StorageMode.locate_ne_nil_of_tableUri huri home)
    refine h.agreeFrom hstays.resetLocal (StorageMode.agreeFrom_resetLocal h.related.1 ?_)
    rw [← h.related.1, h.home_eq]
    exact hremoved

/-! ### Neutral steps -/

/-- The step is a checkpoint or a reader. -/
def Step.IsNeutral : Step → Prop
  | .checkpoint | .summary | .read => True
  | _ => False

namespace Table

/-- A checkpoint keeps the files in agreement, but for checkpoints, with other files. -/
theorem checkpoint_respects_agreeButCheckpoints (home : Location) (uri : String)
    (other : FileTree Content) :
    (checkpoint ⟨uri⟩).Respects
      (Stays home fun tree => AgreeButCheckpoints home uri tree other) := by
  have hR := isEvolution_stays home fun tree : FileTree Content =>
    IsPassable home uri tree ∧ AgreeButCheckpoints home uri tree other
  refine placeForReading_bind_respects ?_
  refine (snapshotAt_respects hR _).bind hR fun snapshot => ?_
  rw [Log.checkpointPath_eq, Log.pointerPath_eq]
  refine (replaceFile_respects (by simp) ?_ _).bind hR fun _ => ?_
  · exact not_not.mpr (.inr ⟨_, rfl⟩)
  refine (replaceFile_respects (by simp) ?_ _).bind hR fun _ => ?_
  · exact not_not.mpr (.inl rfl)
  exact (Run.respects_record hR _).bind hR fun _ => Run.respects_pure hR _

/-- A reader keeps the files in agreement, but for checkpoints, with other files. -/
theorem scan_respects_agreeButCheckpoints (home : Location) (uri : String)
    (other : FileTree Content) :
    (scan ⟨uri⟩).Respects (Stays home fun tree => AgreeButCheckpoints home uri tree other) := by
  have hR := isEvolution_stays home fun tree : FileTree Content =>
    IsPassable home uri tree ∧ AgreeButCheckpoints home uri tree other
  refine placeForReading_bind_respects ?_
  refine (snapshotAt_respects hR _).bind hR fun snapshot => ?_
  refine Run.Respects.bind hR (fun world => hR.refl world) fun tree => ?_
  split
  · exact Run.respects_pure hR _
  · exact Run.respects_throw hR _

end Table

/-- A neutral step keeps the files in agreement, but for checkpoints, with other files. -/
theorem Step.IsNeutral.respects_runAt [Engine] {step : Step} (h : step.IsNeutral) (home : Location)
    (uri : String) (other : FileTree Content) :
    (step.runAt .localFiles uri).Respects
      (Stays home fun tree => Table.AgreeButCheckpoints home uri tree other) := by
  have hR := isEvolution_stays home fun tree : FileTree Content =>
    Table.AgreeButCheckpoints home uri tree other
  have hscan := Table.scan_respects_agreeButCheckpoints home uri other
  cases step with
  | checkpoint =>
    exact (Table.checkpoint_respects_agreeButCheckpoints home uri other).bind hR fun _ =>
      Run.respects_pure hR _
  | summary =>
    have hsummary : (Table.summary ⟨uri⟩).Respects _ :=
      hscan.bind hR fun _ => Run.respects_pure hR _
    exact hsummary.bind hR fun _ => Run.respects_pure hR _
  | read =>
    have hread : (Table.readAll ⟨uri⟩).Respects _ :=
      hscan.bind hR fun _ => Run.respects_pure hR _
    exact hread.bind hR fun _ => Run.respects_pure hR _
  | append start count time message partitionBy => exact h.elim
  | delete predicate => exact h.elim
  | reset => exact h.elim

/-- A neutral step in one of two worlds that are the same but for the checkpoints keeps them so. -/
theorem Step.IsNeutral.sameButCheckpoints [Engine] {step : Step} (h : step.IsNeutral)
    {home : Location} {uri : String} {first second : World}
    (hsame : Table.SameButCheckpoints home uri first second) :
    Table.SameButCheckpoints home uri ((step.runAt .localFiles uri).start first).2 second := by
  have hstays := Operations.respect_stays
    (Table.isInvariant_isInOrder (locate home uri) (Table.OnTheWay home uri))
  obtain ⟨hhome, hagree⟩ := h.respects_runAt home uri second.tree first hsame.home_eq
    hsame.related.2
  obtain ⟨-, hordered⟩ := step.respects_runAt hstays first hsame.home_eq hsame.isInOrder
  exact ⟨hhome, ⟨hhome.trans (hsame.home_eq.symm.trans hsame.related.1), hagree⟩, hordered,
    hsame.isInOrder'⟩

/-! ### Sequences of steps -/

namespace Step

variable {name root uri : String} {world : World}

/-- Steps on a table keep the invariants of its place. -/
theorem inTurn_stays [Engine] {P : FileTree Content → Prop}
    (hP : Table.IsInvariant (locate world.home uri) (Table.OnTheWay world.home uri) P)
    (huri : StorageMode.localFiles.tableUri name root = .ok uri) (h : P world.tree)
    (steps : List Step) :
    let after := (Run.inTurn (steps.map fun step => step.run .localFiles name root) world).2
    after.home = world.home ∧ P after.tree := by
  have hstays := Operations.respect_stays hP
  refine Run.inTurn_respects hstays.evolution ?_ world rfl h
  intro run hrun
  obtain ⟨step, -, rfl⟩ := List.mem_map.mp hrun
  rw [step.run_of_tableUri huri]
  exact step.respects_runAt hstays

/-- A checkpoint of a table in an open store writes the checkpoint file and its pointer, and nothing
else. -/
theorem find?_checkpoint [Engine] (huri : StorageMode.localFiles.tableUri name root = .ok uri)
    (h : Table.OpenIfReadable (locate world.home uri) world.tree) {version : Nat} {after : World}
    (hrun : (checkpoint.run .localFiles name root).start world = (.ok (.version version), after))
    {l : Location} (hcheckpoint : l ≠ Log.checkpointPath (locate world.home uri) version)
    (hpointer : l ≠ Log.pointerPath (locate world.home uri)) :
    after.tree.find? l = world.tree.find? l := by
  rw [checkpoint.run_of_tableUri huri] at hrun
  obtain ⟨version', middle, hmiddle, hlast⟩ := Run.exists_of_start_bind_eq_ok hrun
  obtain ⟨-, hothers⟩ := (Table.checkpoint_ensures_of_openIfReadable ⟨uri⟩ h).of_ok hmiddle
  cases hlast
  exact hothers l hcheckpoint hpointer

/-- Two checkpoints in a row give the same answer. -/
theorem checkpoint_checkpoint [Engine] (huri : StorageMode.localFiles.tableUri name root = .ok uri)
    (h : Table.IsInOrder world.tree (locate world.home uri)) :
    let run := checkpoint.run .localFiles name root
    (run.start (run.start world).2).1 = (run.start world).1 := by
  simp only [checkpoint.run_of_tableUri huri]
  have hneutral : checkpoint.IsNeutral := trivial
  have hsame := hneutral.sameButCheckpoints (Table.SameButCheckpoints.refl rfl h)
  exact (checkpoint.alike_runAt (Operations.areAlike_sameButCheckpoints huri world.home) hsame).1

/-- Steps on a table of which nothing is there at first are answered as if the checkpoints and
readers that have been inserted were not there.  After any steps, a checkpoint that succeeds writes
its file and the pointer to it and nothing else, and another one after it gives the same answer. -/
theorem neutral_insertions [Engine] (huri : StorageMode.localFiles.tableUri name root = .ok uri)
    (habsent : Log.read world.tree (locate world.home uri) = .absent) {items : List (Step × Bool)}
    (hinserted : ∀ item ∈ items, item.2 = false → item.1.IsNeutral) :
    let run := fun step : Step => step.run .localFiles name root
    Run.answersTo Prod.snd items (Run.inTurn (items.map fun item => run item.1) world).1 =
        (Run.inTurn ((items.filter Prod.snd).map fun item => run item.1) world).1 ∧
      ∀ steps : List Step,
        let reached := (Run.inTurn (steps.map run) world).2
        (∀ version, ((run checkpoint).start reached).1 = .ok (.version version) →
          ∀ l, l ≠ Log.checkpointPath (locate world.home uri) version →
            l ≠ Log.pointerPath (locate world.home uri) →
            ((run checkpoint).start reached).2.tree.find? l = reached.tree.find? l) ∧
        ((run checkpoint).start ((run checkpoint).start reached).2).1 =
          ((run checkpoint).start reached).1 := by
  have hordered := Table.isInvariant_isInOrder (locate world.home uri)
    (Table.OnTheWay world.home uri)
  have hopen := Table.isInvariant_openIfReadable (locate world.home uri)
    (Table.OnTheWay world.home uri)
  constructor
  · have halike := Operations.areAlike_sameButCheckpoints huri world.home
    have hstart : Table.SameButCheckpoints world.home uri world world :=
      .refl rfl (hordered.of_absent habsent)
    refine (Run.inTurn_filter ?_ ?_ hstart).1
    · intro item _ _ first second hsame
      simp only [item.1.run_of_tableUri huri]
      exact item.1.alike_runAt halike hsame
    · intro item hitem hout first second hsame
      simp only [item.1.run_of_tableUri huri]
      exact (hinserted item hitem hout).sameButCheckpoints hsame
  · intro steps
    obtain ⟨hhome, hreached⟩ := inTurn_stays hordered huri (hordered.of_absent habsent) steps
    obtain ⟨-, hopened⟩ := inTurn_stays hopen huri (hopen.of_absent habsent) steps
    rw [← hhome] at hreached hopened
    constructor
    · intro version hanswer l hcheckpoint hpointer
      rw [← hhome] at hcheckpoint hpointer
      exact find?_checkpoint huri hopened (Prod.ext hanswer rfl) hcheckpoint hpointer
    · exact checkpoint_checkpoint huri hreached

/-- Two checkpoints and two readers among four steps on a table. -/
theorem neutral_insertions_fresh :
    let run := fun step : Step => step.run .localFiles "t" "."
    let items : List (Step × Bool) := [(.append 1 3 ⟨0⟩ "a" ["user"], true), (.checkpoint, false),
      (.delete "id = 2", true), (.summary, false), (.checkpoint, false),
      (.append 7 1 ⟨0⟩ "b" [], true), (.read, false), (.summary, true)]
    let answers := Run.answersTo Prod.snd items
      (Run.inTurn (items.map fun item => run item.1) World.fresh).1
    answers = (Run.inTurn ((items.filter Prod.snd).map fun item => run item.1) World.fresh).1 ∧
      answers = [.ok (.version 0), .ok (.deleted ⟨1, 1⟩), .ok (.version 2),
        .ok (.summary ⟨2, 3, 2⟩)] := by
  intro run items answers
  have huri : StorageMode.localFiles.tableUri "t" "." = .ok "./t/" := by decide +kernel
  have habsent : Log.read World.fresh.tree (locate World.fresh.home "./t/") = .absent := by
    decide +kernel
  have hinserted : ∀ item ∈ items, item.2 = false → item.1.IsNeutral := by
    simp [items, IsNeutral]
  exact ⟨(neutral_insertions huri habsent hinserted).1, by decide +kernel⟩

end Step

end LogTable
