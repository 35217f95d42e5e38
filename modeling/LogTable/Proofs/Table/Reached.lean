import LogTable.Proofs.Evolution
import LogTable.Proofs.Removal
import LogTable.Proofs.Table.Refinement

/-!
# Places that steps have led to

A place is settled if it holds a plain table, no table, or a log that cannot be read
(`IsSettled`).  What the operations on a table do to its files is enough to keep an invariant of the
place (`Table.IsInvariant`, `Operations.respect_stays`), whether they succeed or fail.  Hence every
place that was once without a table and has seen nothing but operations, removals and scenarios
since is settled (`Reached.isSettled`).
-/

namespace LogTable

open FileTree Predicate

/-! ### Removing a table -/

/-- When the directory at a path is removed, no log is left there. -/
theorem Log.read_removeDirectory {tree : FileTree Content} {home location : Location}
    {path : String} (hresolve : tree.resolve home path = .ok location)
    (hdirectory : tree.isDirectory location = true) :
    Log.read (tree.removeDirectory home path).2 location = .absent := by
  refine Log.read_eq_absent fun name content h => ?_
  rw [Log.directory, List.append_assoc,
    find?_removeDirectory_below hresolve hdirectory (by simp)] at h
  cases h

/-- Removing the table at an address leaves no table in its place, unless nothing stands there: then
the files stay as they are. -/
theorem StorageMode.resetLocal_ensures (path : String) (world : World) :
    (localFiles.resetLocal path).Ensures world
      (fun _ after => after.home = world.home ∧
        if world.tree.existsAt world.home path then
          Log.read after.tree (locate world.home path) = .absent
        else after.tree = world.tree)
      fun _ after => after.home = world.home ∧
        (after.tree = world.tree ∨ Log.read after.tree (locate world.home path) = .absent) := by
  unfold resetLocal
  rw [isLocal_localFiles, if_neg (by decide)]
  refine Run.ensures_bind (Run.ensures_tree (Run.ensures_bind (Run.ensures_home ?_)))
  cases hresolve : world.tree.resolve world.home path with
  | error fault =>
    have hexists : world.tree.existsAt world.home path = false := by
      rw [existsAt, hresolve]
      rfl
    rw [removeDirectory_of_error hresolve]
    refine Run.ensures_bind (Run.ensures_setTree ?_)
    simp only [hexists]
    cases fault
    case notFound => exact Run.ensures_pure ⟨rfl, rfl⟩
    all_goals exact Run.ensures_throw ⟨rfl, Or.inl rfl⟩
  | ok location =>
    obtain rfl := eq_locate_of_resolve hresolve
    have hexists : world.tree.existsAt world.home path = true := by
      rw [existsAt, hresolve]
      rfl
    simp only [hexists]
    cases hdirectory : world.tree.isDirectory (locate world.home path) with
    | false =>
      rw [removeDirectory_of_file hresolve hdirectory]
      exact Run.ensures_bind (Run.ensures_setTree (Run.ensures_throw ⟨rfl, Or.inl rfl⟩))
    | true =>
      have habsent := Log.read_removeDirectory hresolve hdirectory
      generalize world.tree.removeDirectory world.home path = removed at habsent
      obtain ⟨outcome, tree⟩ := removed
      refine Run.ensures_bind (Run.ensures_setTree ?_)
      split
      · exact Run.ensures_bind (Run.ensures_record (Run.ensures_pure ⟨rfl, habsent⟩))
      · exact Run.ensures_pure ⟨rfl, habsent⟩
      · exact Run.ensures_throw ⟨rfl, Or.inr habsent⟩

/-! ### Settled places -/

/-- The place holds a plain table, no table, or a log that cannot be read. -/
def IsSettled (tree : FileTree Content) (place : Location) : Prop :=
  (∃ state, Holds tree place state) ∨ Log.read tree place = .damaged

namespace IsSettled

variable {before after : FileTree Content} {place : Location} {onTheWay : Location → Prop}

theorem of_untouched (h : IsSettled before place)
    (huntouched : Table.Untouched place before after) : IsSettled after place := by
  refine h.imp (fun ⟨state, hholds⟩ => ⟨state, hholds.of_untouched huntouched⟩) fun hread => ?_
  rw [huntouched.read_eq, hread]

theorem of_growth (h : IsSettled before place) (hgrowth : Growth place onTheWay before after) :
    IsSettled after place :=
  h.imp (fun ⟨state, hholds⟩ => ⟨state, hholds.of_growth hgrowth⟩) hgrowth.read_eq.trans

/-- An append leads to a plain table, or loses a value. -/
theorem of_appended (h : IsSettled before place) {partitionBy : List String} {rows : List Row}
    {version : Nat} {lost : Bool}
    (happended : Table.Appended place onTheWay partitionBy rows version lost before after) :
    IsSettled after place := by
  cases lost with
  | true => exact Or.inr (Holds.read_of_appended_lost happended)
  | false =>
    rcases h with ⟨state, hholds⟩ | hdamaged
    · exact Or.inl ⟨_, (hholds.of_appended happended).2⟩
    · obtain ⟨actions, columns, files, happends, -, -⟩ := happended
      rw [hdamaged] at happends
      cases happends

theorem of_deleted [Engine] (h : IsSettled before place) {predicate : String}
    {outcome : DeleteOutcome}
    (hdeleted : Table.Deleted place onTheWay predicate outcome before after) :
    IsSettled after place := by
  rcases h with ⟨state, hholds⟩ | hdamaged
  · obtain ⟨table, condition, -, -, -, hafter⟩ := hholds.of_deleted hdeleted
    exact Or.inl ⟨_, hafter⟩
  · obtain ⟨snapshot, condition, middle, deletion, hread, -⟩ := hdeleted
    exact absurd (hdamaged.symm.trans hread) nofun

theorem of_checkpointed (h : IsSettled before place) {snapshot : Snapshot} {pointed : Bool}
    (hcheckpointed : Table.Checkpointed place onTheWay snapshot pointed before after) :
    IsSettled after place := by
  rcases h with ⟨state, hholds⟩ | hdamaged
  · exact Or.inl ⟨state, hholds.of_checkpointed hcheckpointed⟩
  · exact absurd (hdamaged.symm.trans hcheckpointed.1) nofun

end IsSettled

/-! ### Invariants -/

/-- What holds of the files without a table at a place, and of all that the operations on a table
there make of files of which it holds. -/
structure Table.IsInvariant [Engine] (place : Location) (onTheWay : Location → Prop)
    (P : FileTree Content → Prop) : Prop where
  of_absent : ∀ {tree}, Log.read tree place = .absent → P tree
  of_growth : ∀ {before after}, P before → Growth place onTheWay before after → P after
  /-- An append that loses no value leaves the place open. -/
  of_appended : ∀ {before after partitionBy rows version lost}, P before →
    (lost = false → IsOpen after place) →
    Appended place onTheWay partitionBy rows version lost before after → P after
  of_deleted : ∀ {before after predicate outcome}, P before →
    Deleted place onTheWay predicate outcome before after → P after
  of_checkpointed : ∀ {before after snapshot pointed}, P before →
    Checkpointed place onTheWay snapshot pointed before after → P after

/-- A settled place stays settled. -/
theorem Table.isInvariant_isSettled [Engine] (place : Location) (onTheWay : Location → Prop) :
    IsInvariant place onTheWay fun tree => IsSettled tree place where
  of_absent habsent := Or.inl ⟨none, habsent⟩
  of_growth h hgrowth := h.of_growth hgrowth
  of_appended h _ happended := h.of_appended happended
  of_deleted h hdeleted := h.of_deleted hdeleted
  of_checkpointed h hcheckpointed := h.of_checkpointed hcheckpointed

/-- The home is kept, and from there what has held of the files still holds. -/
def Stays (home : Location) (P : FileTree Content → Prop) (world after : World) : Prop :=
  world.home = home → P world.tree → after.home = home ∧ P after.tree

theorem isEvolution_stays (home : Location) (P : FileTree Content → Prop) :
    IsEvolution (Stays home P) where
  refl _ hworld hP := ⟨hworld, hP⟩
  trans h h' hworld hP := h' (h hworld hP).1 (h hworld hP).2
  record _ _ hworld hP := ⟨hworld, hP⟩

/-- A run that ensures of each world with the home that what holds of the files is kept. -/
theorem Run.respects_stays {α : Type} {run : Run α} {home : Location}
    {P : FileTree Content → Prop}
    (h : ∀ world : World, world.home = home → P world.tree → run.Ensures world
      (fun _ after => after.home = world.home ∧ P after.tree)
      fun _ after => after.home = world.home ∧ P after.tree) :
    run.Respects (Stays home P) := by
  rintro world rfl hP
  exact (h world rfl hP).after

/-- The operations on the table at an address keep the invariants of the place that the address
names. -/
theorem Operations.respect_stays [Engine] {home : Location} {uri : String}
    {P : FileTree Content → Prop}
    (hP : Table.IsInvariant (locate home uri) (Table.OnTheWay home uri) P) :
    Respect (Stays home P) .localFiles uri where
  evolution := isEvolution_stays _ _
  append rows partitionBy := Run.respects_stays fun world hworld hbefore => by
    subst hworld
    refine (Table.append_ensures ⟨uri⟩ rows partitionBy world).mono ?_ ?_
    · rintro version after ⟨hchanges, hopen, -⟩
      exact ⟨hchanges.home, hP.of_appended hbefore (fun _ => hopen) hchanges.tree⟩
    · rintro _ after hchanges
      refine ⟨hchanges.home, ?_⟩
      rcases hchanges.tree with hgrowth | ⟨version, happended⟩
      · exact hP.of_growth hbefore hgrowth
      · exact hP.of_appended hbefore (fun hlost => absurd hlost (by decide)) happended
  delete predicate := Run.respects_stays fun world hworld hbefore => by
    subst hworld
    refine (Table.delete_ensures ⟨uri⟩ predicate world).mono ?_ ?_
    · rintro outcome after ⟨hchanges, -⟩
      exact ⟨hchanges.home, hP.of_deleted hbefore hchanges.tree⟩
    · rintro _ after hchanges
      exact ⟨hchanges.home, hP.of_growth hbefore hchanges.tree⟩
  checkpoint := Run.respects_stays fun world hworld hbefore => by
    subst hworld
    refine (Table.checkpoint_ensures ⟨uri⟩ world).mono ?_ ?_
    · rintro version after ⟨snapshot, -, hchanges, -⟩
      exact ⟨hchanges.home, hP.of_checkpointed hbefore hchanges.tree⟩
    · rintro _ after ⟨hchanges, -⟩
      refine ⟨hchanges.home, ?_⟩
      rcases hchanges.tree with hreadOnly | ⟨snapshot, hcheckpointed⟩
      · exact hP.of_growth hbefore hreadOnly.1
      · exact hP.of_checkpointed hbefore hcheckpointed
  scan := Run.respects_stays fun world hworld hbefore => by
    subst hworld
    refine (Table.scan_ensures ⟨uri⟩ world).mono ?_ ?_
    · rintro _ after ⟨hchanges, -⟩
      exact ⟨hchanges.home, hP.of_growth hbefore hchanges.tree.1⟩
    · rintro _ after ⟨hchanges, -⟩
      exact ⟨hchanges.home, hP.of_growth hbefore hchanges.tree.1⟩
  resetLocal := Run.respects_stays fun world hworld hbefore => by
    subst hworld
    refine (StorageMode.resetLocal_ensures uri world).mono ?_ ?_
    · rintro _ after ⟨hhome, hafter⟩
      refine ⟨hhome, ?_⟩
      split_ifs at hafter
      · exact hP.of_absent hafter
      · rwa [hafter]
    · rintro _ after ⟨hhome, hafter | hafter⟩
      · exact ⟨hhome, hafter ▸ hbefore⟩
      · exact ⟨hhome, hP.of_absent hafter⟩

/-- An operation respects what the operations respect. -/
theorem Operation.respects_run [Engine] {R : World → World → Prop} {storage : StorageMode}
    {uri : String} (h : Operations.Respect R storage uri) (operation : Operation) :
    (operation.run ⟨uri⟩).Respects R := by
  have hpure : ∀ answer : Answer, (pure answer : Run Answer).Respects R :=
    fun answer => Run.respects_pure h.evolution answer
  cases operation with
  | append rows partitionBy => exact (h.append rows partitionBy).bind h.evolution fun _ => hpure _
  | delete predicate => exact (h.delete predicate).bind h.evolution fun _ => hpure _
  | checkpoint => exact h.checkpoint.bind h.evolution fun _ => hpure _
  | summary => exact h.summary.bind h.evolution fun _ => hpure _
  | read => exact h.readAll.bind h.evolution fun _ => hpure _

/-- A machine where the place was without a table once, and where nothing has been done to the place
since but operations, removals and scenarios, whether they have succeeded or failed. -/
inductive Reached [Engine] (place : Location) : World → Prop where
  | start {world : World} (h : Log.read world.tree place = .absent) : Reached place world
  | operation {world : World} {uri : String} (h : Reached place world)
      (hplace : locate world.home uri = place) (operation : Operation) :
    Reached place ((operation.run ⟨uri⟩).start world).2
  | removal {world : World} {uri : String} (h : Reached place world)
      (hplace : locate world.home uri = place) :
    Reached place ((StorageMode.localFiles.resetLocal uri).start world).2
  | scenario {world : World} {uri : String} (h : Reached place world)
      (hplace : locate world.home uri = place) (scenario : Scenario) (clock : Clock)
      (huri : StorageMode.localFiles.tableUri scenario.table scenario.localRoot = .ok uri) :
    Reached place ((scenario.run .localFiles clock).start world).2
  | elsewhere {world after : World} (h : Reached place world)
      (huntouched : Table.Untouched place world.tree after.tree) : Reached place after

/-- What the operations on a table keep holds of a place that has been reached, if it shows in the
place alone. -/
theorem Reached.of_isInvariant [Engine] {place : Location} {P : FileTree Content → Prop}
    (hP : ∀ onTheWay, Table.IsInvariant place onTheWay P)
    (hplace : ∀ {before after}, P before → Table.Untouched place before after → P after)
    {world : World} (h : Reached place world) : P world.tree := by
  induction h with
  | start habsent => exact (hP fun _ => True).of_absent habsent
  | @operation world uri _ huri operation ih =>
    subst huri
    exact (operation.respects_run (Operations.respect_stays (hP _)) world rfl ih).2
  | @removal world uri _ huri ih =>
    subst huri
    have hrespect : Operations.Respect (Stays world.home P) .localFiles uri :=
      Operations.respect_stays (hP _)
    exact (hrespect.resetLocal world rfl ih).2
  | @scenario world uri _ hlocate scenario clock huri ih =>
    subst hlocate
    exact (scenario.respects_run (Operations.respect_stays (hP _)) clock huri world rfl ih).2
  | elsewhere _ huntouched ih => exact hplace ih huntouched

/-- A place that has been reached is settled. -/
theorem Reached.isSettled [Engine] {place : Location} {world : World} (h : Reached place world) :
    IsSettled world.tree place :=
  h.of_isInvariant (Table.isInvariant_isSettled place) .of_untouched

end LogTable
