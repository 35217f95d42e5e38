import LogTable.Proofs.Table.Place
import LogTable.Proofs.Table.Refinement
import LogTable.Proofs.Table.Room

/-!
# Failed operations

An operation on a table that fails changes nothing that readers see, and takes away no append that
would have succeeded (`Table.IsUnchanged`).  The exception is an append with an empty text in a
partition column: it fails after its commit, and nobody can open the table any more.  Main
statement: `Operation.isUnchanged_of_failure`, for every table that operations have led to
(`Table.History`), whether they have succeeded or failed.
-/

namespace LogTable

open FileTree Predicate

/-! ### What readers see -/

namespace Table

variable {table : Table} {world after : World}

/-- Without a table that can be read, readers fail to open it. -/
theorem scan_ensures_opening
    (hnone : ∀ snapshot, Log.read world.tree (locate world.home table.uri) ≠ .table snapshot) :
    table.scan.Ensures world (fun _ _ => False) fun failure _ => failure = .table .opening := by
  unfold scan
  refine Run.ensures_bind (((placeForReading_ensures table world).failsOnly
    (placeForReading_failsOnly table)).mono ?_ fun _ _ h => h.2)
  rintro _ middle ⟨rfl, hgrows, -⟩
  refine Run.ensures_bind (((snapshotAt_ensures _ middle).failsOnly
    (snapshotAt_failsOnly (P := fun failure => failure = .table .opening) rfl _)).mono ?_
      fun _ _ h => h.2)
  rintro snapshot _ ⟨rfl, hread⟩
  exact absurd (hgrows.tree.read_eq.symm.trans hread) (hnone snapshot)

/-- Readers of a table see its snapshot and its rows. -/
theorem scan_ensures_table {snapshot : Snapshot} {rows : List Row} (hready : table.IsReady world)
    (hread : Log.read world.tree (locate world.home table.uri) = .table snapshot)
    (hrows : snapshot.rows? world.tree (locate world.home table.uri) = some rows) :
    table.scan.Ensures world (fun answer _ => answer = (snapshot, rows)) fun _ _ => False := by
  refine (table.scan_ensures world).mono ?_ ?_
  · rintro ⟨snapshot', rows'⟩ _ ⟨-, -, hread', hrows'⟩
    obtain rfl : snapshot' = snapshot := LogReading.table.inj (hread'.symm.trans hread)
    obtain rfl : rows' = rows := Option.some.inj (hrows'.symm.trans hrows)
    rfl
  · rintro _ _ ⟨-, hcause⟩
    exact hcause snapshot rows hready hread hrows

/-- The log at a place says the same, and has the same commits; directories and data files are still
there. -/
structure IsSpared (place : Location) (before after : FileTree Content) : Prop where
  read_eq : Log.read after place = Log.read before place
  commits_eq : Log.commits after place = Log.commits before place
  directory_kept : ∀ l, before.find? l = some .directory → after.find? l = some .directory
  data_kept : ∀ path rows, IsDataPath path →
    before.find? (place ++ path) = some (.file (.rows rows)) →
    after.find? (place ++ path) = some (.file (.rows rows))

end Table

theorem Growth.isSpared {place : Location} {onTheWay : Location → Prop}
    {before after : FileTree Content} (h : Growth place onTheWay before after) :
    Table.IsSpared place before after where
  read_eq := h.read_eq
  commits_eq := h.commits_eq
  directory_kept _ hl := h.kept hl
  data_kept _ _ _ hfind := h.kept hfind

/-- A checkpoint without its pointer spares the table. -/
theorem Table.Checkpointed.isSpared {place : Location} {onTheWay : Location → Prop}
    {snapshot : Snapshot} {before after : FileTree Content}
    (h : Checkpointed place onTheWay snapshot false before after) :
    IsSpared place before after := by
  have hkept := fun l (hl : before.find? l = some .directory) => h.kept hl
  obtain ⟨hread, -, -, middle, hreadOnly, rfl⟩ := h
  have hmiddle : Log.read middle place = .table snapshot := hreadOnly.1.read_eq.trans hread
  have hversion := (Log.isLatest_of_read_eq_table hmiddle).version_lt
  simp only [Bool.false_eq_true, if_false] at hkept ⊢
  constructor
  · rw [Log.read_put_checkpoint hmiddle, hread]
  · rw [Log.commits_put_of_ne Log.checkpointPath_ne_nil fun version hv =>
      Log.commitPath_ne_checkpointPath place hv hversion]
    exact hreadOnly.1.commits_eq
  · exact hkept
  · intro path rows hpath hfind
    rw [Log.checkpointPath, find?_put _ _ _ (by simp), if_neg hpath.append_ne_log]
    exact hreadOnly.1.kept hfind

/-! ### What operations lead to -/

namespace Table

variable {table : Table} {first world after : World}

/-- A machine on which operations on the table have been carried out since the first one, whether
they have succeeded or failed, with whatever others do elsewhere in between. -/
inductive History [Engine] (table : Table) (first : World) : World → Prop where
  | start : History table first first
  | operation {world : World} (h : History table first world) (operation : Operation) :
    History table first ((operation.run table).start world).2
  | elsewhere {world after : World} (h : History table first world)
      (helsewhere : world.Elsewhere (locate world.home table.uri) after) :
    History table first after

/-- A sound world holds a plain table that readers get to, or no table, or a log that cannot be
read. -/
def IsSteady (table : Table) (world : World) : Prop :=
  (∃ state, table.Keeps state world) ∨
    world.IsSound ∧ Log.read world.tree (locate world.home table.uri) = .damaged

theorem IsSteady.isSound (h : table.IsSteady world) : world.IsSound := by
  rcases h with ⟨state, hkeeps⟩ | ⟨hsound, -⟩
  · exact hkeeps.sound
  · exact hsound

end Table

namespace Operation

open Table

variable {table : Table} {world after : World}

/-- Operations fail as their parts do: a summary and a reading as the scan of the table. -/
theorem ensures_run [Engine] {operation : Operation} {P : Prop} {failed : Failure → World → Prop}
    (happend : ∀ rows partitionBy, operation = .append rows partitionBy →
      (table.append rows partitionBy).Ensures world (fun _ _ => P) failed)
    (hdelete : ∀ predicate, (table.delete predicate).Ensures world (fun _ _ => P) failed)
    (hcheckpoint : table.checkpoint.Ensures world (fun _ _ => P) failed)
    (hscan : table.scan.Ensures world (fun _ _ => P) failed) :
    (operation.run table).Ensures world (fun _ _ => P) failed := by
  have hpure : ∀ {α β : Type} {run : Run α} (f : α → β), run.Ensures world (fun _ _ => P) failed →
      (run >>= fun a => pure (f a)).Ensures world (fun _ _ => P) failed := by
    intro α β run f h
    exact Run.ensures_bind (h.mono (fun _ _ hP => Run.ensures_pure hP) fun _ _ hfailed => hfailed)
  cases operation with
  | append rows partitionBy => exact hpure _ (happend rows partitionBy rfl)
  | delete predicate => exact hpure _ (hdelete predicate)
  | checkpoint => exact hpure _ hcheckpoint
  | summary => exact hpure _ (hpure _ hscan)
  | read => exact hpure _ (hpure _ hscan)

/-- On a log that cannot be read every operation fails, and adds nothing to the log. -/
theorem run_ensures_of_damaged [Engine] (operation : Operation)
    (hdamaged : Log.read world.tree (locate world.home table.uri) = .damaged) :
    (operation.run table).Ensures world (fun _ _ => False)
      fun _ after => world.Changes []
        (Growth (locate world.home table.uri) (OnTheWay world.home table.uri)) after := by
  have hnot : ∀ {partitionBy : List String} {rows : List Row} {version : Nat} {lost : Bool}
      {tree : FileTree Content},
      ¬ Appended (locate world.home table.uri) (OnTheWay world.home table.uri) partitionBy rows
        version lost world.tree tree := by
    rintro partitionBy rows version lost tree ⟨actions, columns, files, happends, -⟩
    rw [hdamaged] at happends
    cases happends
  refine ensures_run (fun rows partitionBy _ => ?_) (fun predicate => ?_) ?_ ?_
  · refine (table.append_ensures rows partitionBy world).mono ?_ ?_
    · exact fun _ _ h => hnot h.1.tree
    · intro _ after hchanges
      refine hchanges.mono fun hfailed => ?_
      rcases hfailed with hgrowth | ⟨version, happended⟩
      · exact hgrowth
      · exact absurd happended hnot
  · refine (table.delete_ensures predicate world).mono ?_ fun _ _ h => h
    rintro _ _ ⟨hchanges, -⟩
    obtain ⟨_, _, _, _, hread, -⟩ := hchanges.tree
    cases hdamaged.symm.trans hread
  · refine (table.checkpoint_ensures world).mono ?_ ?_
    · rintro _ _ ⟨_, -, hchanges, -⟩
      cases hdamaged.symm.trans hchanges.tree.1
    · rintro _ after ⟨hchanges, -⟩
      refine hchanges.mono fun hfailed => ?_
      rcases hfailed with hreadOnly | ⟨_, hread, -⟩
      · exact hreadOnly.1
      · cases hdamaged.symm.trans hread
  · refine (table.scan_ensures world).mono ?_ fun _ _ h => h.1.mono And.left
    rintro _ _ ⟨-, -, hread, -⟩
    cases hdamaged.symm.trans hread

/-- What an operation comes to if it fails: it spares the table, or it is an append whose version
has lost a value. -/
def HasFailed (operation : Operation) (place : Location) (onTheWay : Location → Prop)
    (before after : FileTree Content) : Prop :=
  IsSpared place before after ∨ ∃ rows partitionBy version, operation = .append rows partitionBy ∧
    Appended place onTheWay partitionBy rows version true before after

theorem run_ensures_hasFailed [Engine] (operation : Operation) (table : Table) (world : World) :
    (operation.run table).Ensures world (fun _ _ => True)
      fun _ after => world.Changes [] (operation.HasFailed (locate world.home table.uri)
        (OnTheWay world.home table.uri)) after := by
  refine ensures_run (fun rows partitionBy heq => ?_) (fun predicate => ?_) ?_ ?_
  · refine (table.append_ensures rows partitionBy world).mono (fun _ _ _ => trivial) ?_
    intro _ after hchanges
    refine hchanges.mono fun hfailed => ?_
    rcases hfailed with hgrowth | ⟨version, happended⟩
    · exact Or.inl hgrowth.isSpared
    · exact Or.inr ⟨rows, partitionBy, version, heq, happended⟩
  · refine (table.delete_ensures predicate world).mono (fun _ _ _ => trivial) ?_
    exact fun _ _ hchanges => hchanges.mono fun hgrowth => Or.inl hgrowth.isSpared
  · refine (table.checkpoint_ensures world).mono (fun _ _ _ => trivial) ?_
    rintro _ after ⟨hchanges, -⟩
    refine hchanges.mono fun hfailed => ?_
    rcases hfailed with hreadOnly | ⟨_, hcheckpointed⟩
    · exact Or.inl hreadOnly.1.isSpared
    · exact Or.inl hcheckpointed.isSpared
  · refine (table.scan_ensures world).mono (fun _ _ _ => trivial) ?_
    exact fun _ _ h => h.1.mono fun hreadOnly => Or.inl hreadOnly.1.isSpared

theorem failsEarly_ok (operation : Operation) {place : Location} {before after : FileTree Content}
    (answer : Answer) : operation.FailsEarly place before after (.ok answer) := by
  cases operation <;> trivial

theorem failsEarly_of_commits_eq (operation : Operation) {place : Location}
    {before after : FileTree Content}
    (h : Log.commits after place = Log.commits before place) (answer : Except Failure Answer) :
    operation.FailsEarly place before after answer := by
  cases operation <;> cases answer <;> first | exact h | trivial

/-- An operation leads from a steady world to a steady world. -/
theorem isSteady_run [Engine] (operation : Operation) (huri : table.uri ≠ "")
    (h : table.IsSteady world) : table.IsSteady ((operation.run table).start world).2 := by
  cases hrun : (operation.run table).start world with
  | mk answer after =>
    rcases h with ⟨state, hkeeps⟩ | ⟨hsound, hdamaged⟩
    · by_cases hearly : operation.FailsEarly (locate world.home table.uri) world.tree after.tree
          answer
      · obtain ⟨-, state', -, hkeeps'⟩ := operation.isStep hkeeps huri hrun hearly
        exact Or.inl ⟨state', hkeeps'⟩
      · cases answer with
        | ok answer => exact absurd (operation.failsEarly_ok answer) hearly
        | error failure =>
          have hchanges := (operation.run_ensures_hasFailed table world).of_error hrun
          rcases hchanges.tree with hspared | ⟨rows, partitionBy, version, rfl, happended⟩
          · exact absurd (operation.failsEarly_of_commits_eq hspared.commits_eq _) hearly
          · have hdamaged := Holds.read_of_appended_lost happended
            rw [← hchanges.home] at hdamaged
            exact Or.inr ⟨hchanges.sound hkeeps.sound, hdamaged⟩
    · have hensures := operation.run_ensures_of_damaged hdamaged
      cases answer with
      | ok answer => exact (hensures.of_ok hrun).elim
      | error failure =>
        have hchanges := hensures.of_error hrun
        have hdamaged' := hchanges.tree.read_eq.trans hdamaged
        rw [← hchanges.home] at hdamaged'
        exact Or.inr ⟨hchanges.sound hsound, hdamaged'⟩

end Operation

namespace Table

variable {table : Table} {first world after : World}

/-- Whatever operations are carried out, a steady world stays steady. -/
theorem History.isSteady [Engine] (h : table.History first world) (huri : table.uri ≠ "")
    (hfirst : table.IsSteady first) : table.IsSteady world := by
  induction h with
  | start => exact hfirst
  | operation _ operation ih => exact operation.isSteady_run huri ih
  | @elsewhere world after _ helsewhere ih =>
    rcases ih with ⟨state, hkeeps⟩ | ⟨hsound, hdamaged⟩
    · exact Or.inl ⟨state, hkeeps.of_elsewhere helsewhere⟩
    · refine Or.inr ⟨helsewhere.sound hsound, ?_⟩
      rw [helsewhere.home, ← hdamaged]
      refine Log.read_congr fun name content => ?_
      rw [Log.directory, List.append_assoc, helsewhere.untouched]

/-! ### What is left -/

/-- Readers see the same as before, and every append that would have succeeded before still succeeds
with the same version. -/
structure IsUnchanged (table : Table) (before after : World) : Prop where
  summary : (table.summary.start after).1 = (table.summary.start before).1
  readAll : (table.readAll.start after).1 = (table.readAll.start before).1
  append : ∀ rows partitionBy version,
    ((table.append rows partitionBy).start before).1 = .ok version →
    ((table.append rows partitionBy).start after).1 = .ok version

/-- Readers of a steady table see the same as long as it is spared. -/
theorem scan_eq_of_isSpared (hsteady : table.IsSteady world) (hhome : after.home = world.home)
    (hspared : IsSpared (locate world.home table.uri) world.tree after.tree) :
    (table.scan.start after).1 = (table.scan.start world).1 := by
  have hread : Log.read after.tree (locate after.home table.uri) =
      Log.read world.tree (locate world.home table.uri) := by
    rw [hhome]
    exact hspared.read_eq
  by_cases htable : ∃ snapshot,
      Log.read world.tree (locate world.home table.uri) = .table snapshot
  · obtain ⟨snapshot, hworld⟩ := htable
    obtain ⟨state, hkeeps⟩ := hsteady.resolve_right fun h => absurd (h.2.symm.trans hworld) nofun
    obtain ⟨plain, rfl, hstored, -⟩ := hkeeps.holds.of_read_eq_table hworld
    obtain ⟨hstored', hrows⟩ := hstored.of_kept hspared.data_kept
    have hready := hkeeps.isReady nofun
    have hready' := hready.of_kept hhome hspared.directory_kept
    have hrows' := hstored'.rows?_eq_some
    rw [hrows, ← hhome] at hrows'
    have hbefore := (scan_ensures_table hready hworld hstored.rows?_eq_some).fst_eq_ok
    have hafter := (scan_ensures_table hready' (hread.trans hworld) hrows').fst_eq_ok
    rw [hbefore, hafter, hhome]
  · have hnone := not_exists.mp htable
    have hbefore := (scan_ensures_opening hnone).fst_eq_error
    rw [← hread] at hnone
    rw [hbefore, (scan_ensures_opening hnone).fst_eq_error]

/-- A reader either changes nothing or finds what a writer would find. -/
theorem placeForReading_ensures_opened {place : Location} {opened : World}
    (hopened : table.placeForWriting.start world = (.ok place, opened)) :
    table.placeForReading.Ensures world (fun place' after => place' = place ∧ after = opened)
      fun _ after => after = world := by
  rcases start_placeForReading_cases table world with hfailed | hsame
  · exact Run.ensures_of_start_error hfailed rfl
  · exact Run.ensures_of_start (hsame.trans hopened) ⟨rfl, rfl⟩

theorem scan_ensures_opened {place : Location} {opened : World}
    (hopened : table.placeForWriting.start world = (.ok place, opened)) :
    table.scan.Ensures world (fun _ _ => True) fun _ after => after = world ∨ after = opened := by
  unfold scan
  refine Run.ensures_bind ((placeForReading_ensures_opened hopened).mono ?_ fun _ _ h => Or.inl h)
  rintro place opened ⟨rfl, rfl⟩
  refine Run.ensures_bind ((snapshotAt_ensures place opened).mono ?_ fun _ _ h => Or.inr h.1)
  rintro snapshot opened ⟨rfl, -⟩
  refine Run.ensures_bind (Run.ensures_tree ?_)
  cases snapshot.rows? opened.tree place with
  | none => exact Run.ensures_throw (Or.inr rfl)
  | some rows => exact Run.ensures_pure trivial

/-- A checkpoint that fails changes nothing, or leaves room. -/
theorem checkpoint_ensures_leavesRoom {place : Location} {opened : World}
    (hopened : table.placeForWriting.start world = (.ok place, opened)) :
    table.checkpoint.Ensures world (fun _ _ => True)
      fun _ after => after = world ∨ LeavesRoom place opened.tree after.tree := by
  have hrefl : LeavesRoom place opened.tree opened.tree := .refl _
  unfold checkpoint
  refine Run.ensures_bind ((placeForReading_ensures_opened hopened).mono ?_ fun _ _ h => Or.inl h)
  rintro place opened ⟨rfl, rfl⟩
  refine Run.ensures_bind ((snapshotAt_ensures place opened).mono ?_ ?_)
  swap
  · rintro _ _ ⟨rfl, -⟩
    exact Or.inr hrefl
  rintro snapshot opened ⟨rfl, hread⟩
  have hversion := (Log.isLatest_of_read_eq_table hread).version_lt
  refine Run.ensures_bind ((replaceFile_ensures _ _ opened).mono ?_ ?_)
  swap
  · rintro _ _ ⟨-, -, rfl⟩
    exact Or.inr hrefl
  rintro _ _ ⟨hfree, rfl⟩
  have hroom : LeavesRoom place opened.tree (opened.tree.put
      (Log.checkpointPath place snapshot.version) (.file (.checkpoint snapshot))) := by
    rw [Log.checkpointPath_eq] at hfree ⊢
    refine .put (not_isWay_log_append _) hfree fun version hv => ?_
    rw [← Log.checkpointPath_eq]
    exact Log.commitPath_ne_checkpointPath place hv hversion
  refine Run.ensures_bind ((replaceFile_ensures _ _ _).mono ?_ ?_)
  · exact fun _ _ _ => Run.ensures_bind (Run.ensures_record (Run.ensures_pure trivial))
  · rintro _ _ ⟨-, -, rfl⟩
    exact Or.inr hroom

end Table

namespace Operation

open Table

variable {table : Table} {world after : World}

/-- From where the place can be opened, an operation that fails changes nothing, or leaves room, or
has written a commit. -/
theorem run_ensures_leavesRoom [Engine] (operation : Operation) {place : Location} {opened : World}
    (hopened : table.placeForWriting.start world = (.ok place, opened))
    (hplace : opened.tree.find? place = some .directory) :
    (operation.run table).Ensures world (fun _ _ => True)
      fun _ after => after = world ∨ LeavesRoom place opened.tree after.tree ∨
        Log.commits after.tree place ≠ Log.commits opened.tree place := by
  refine ensures_run (fun rows partitionBy _ => ?_) (fun predicate => ?_) ?_ ?_
  · refine (append_ensures_canAppend hopened hplace rows partitionBy).mono (fun _ _ _ => trivial) ?_
    exact fun _ _ h => Or.inr h.2
  · refine (delete_ensures_leavesRoom hopened hplace predicate).mono (fun _ _ _ => trivial) ?_
    exact fun _ _ h => Or.inr (Or.inl h)
  · refine (checkpoint_ensures_leavesRoom hopened).mono (fun _ _ _ => trivial) ?_
    exact fun _ _ h => h.imp_right Or.inl
  · refine (scan_ensures_opened hopened).mono (fun _ _ _ => trivial) ?_
    rintro _ after (rfl | rfl)
    · exact Or.inl rfl
    · exact Or.inr (Or.inl (.refl _))

/-- An append that would have succeeded still does after an operation that has failed and has spared
the table. -/
theorem append_eq_ok_of_isSpared [Engine] {operation : Operation} (hsound : world.IsSound)
    (huri : table.uri ≠ "") {failure : Failure}
    (hrun : (operation.run table).start world = (.error failure, after))
    (hhome : after.home = world.home)
    (hspared : IsSpared (locate world.home table.uri) world.tree after.tree) {rows : List Row}
    {partitionBy : List String} {version : Nat}
    (hok : ((table.append rows partitionBy).start world).1 = .ok version) :
    ((table.append rows partitionBy).start after).1 = .ok version := by
  have happend : (table.append rows partitionBy).start world =
      (.ok version, ((table.append rows partitionBy).start world).2) := Prod.ext hok rfl
  obtain ⟨place, opened, hopened, -⟩ := Run.exists_of_start_bind_eq_ok happend
  obtain ⟨rfl, hgrows, -, hready⟩ := (placeForWriting_ensures table world).of_ok hopened
  obtain ⟨-, hplace, hready⟩ := hready hsound
  have hcan := (append_ensures_canAppend hopened hplace rows partitionBy).of_ok happend
  rcases (operation.run_ensures_leavesRoom hopened hplace).of_error hrun with
    rfl | hroom | hcommits
  · exact hok
  · have hready' : table.IsReady after :=
      (hready huri).of_kept (hhome.trans hgrows.home.symm) hroom.kept
    have hopened' := start_placeForWriting_of_isReady hready'
    rw [hhome] at hopened'
    have hread := hspared.read_eq.trans hgrows.tree.read_eq.symm
    have hcan' := hcan.of_leavesRoom hread hroom
    have hensures := append_ensures_canAppend hopened' (hroom.kept _ hplace) rows partitionBy
    cases hrun' : (table.append rows partitionBy).start after with
    | mk answer later =>
      cases answer with
      | error _ => exact absurd hcan' ((hensures.of_error hrun').1 version)
      | ok version' => exact congrArg Except.ok (hcan'.unique (hensures.of_ok hrun'))
  · exact absurd (hspared.commits_eq.trans hgrows.tree.commits_eq.symm) hcommits

/-- What fails and spares the table leaves it unchanged. -/
theorem isUnchanged_of_isSpared [Engine] {operation : Operation} (hsteady : table.IsSteady world)
    (huri : table.uri ≠ "") {failure : Failure}
    (hrun : (operation.run table).start world = (.error failure, after))
    (hhome : after.home = world.home)
    (hspared : IsSpared (locate world.home table.uri) world.tree after.tree) :
    table.IsUnchanged world after := by
  have hscan := scan_eq_of_isSpared hsteady hhome hspared
  constructor
  · exact Run.fst_start_bind_congr hscan fun _ _ _ => rfl
  · exact Run.fst_start_bind_congr hscan fun _ _ _ => rfl
  · intro rows partitionBy version hok
    exact append_eq_ok_of_isSpared hsteady.isSound huri hrun hhome hspared hok

/-- If the operation is an append that the table admits, its rows have no empty text in the
partition columns. -/
def IsStorable (tree : FileTree Content) (place : Location) : Operation → Prop
  | append rows partitionBy => ∀ version actions columns,
    Appends partitionBy (Log.read tree place) version actions columns →
    Table.IsStorable columns rows
  | _ => True

/-- A local table to which any operations have led is unchanged by an operation that fails, or else
it cannot be used any more.  It is unchanged unless the operation is an append with an empty text in
a partition column. -/
theorem isUnchanged_of_failure [Engine] {name root uri : String}
    (huri : StorageMode.localFiles.tableUri name root = .ok uri) {first world after : World}
    (hsound : first.IsSound) (habsent : Log.read first.tree (locate first.home uri) = .absent)
    (hhistory : History ⟨uri⟩ first world) {operation : Operation} {failure : Failure}
    (hrun : (operation.run ⟨uri⟩).start world = (.error failure, after)) :
    (operation.IsStorable world.tree (locate world.home uri) →
        IsUnchanged ⟨uri⟩ world after) ∧
      (IsUnchanged ⟨uri⟩ world after ∨ ∀ further : Operation, ∃ failure',
        ((further.run ⟨uri⟩).start after).1 = .error failure') := by
  have hne : uri ≠ "" := by
    rintro rfl
    obtain ⟨segment, -, -, -, hsteps⟩ := StorageMode.pathSteps_of_tableUri huri first.home
    simp at hsteps
  have hsteady : IsSteady ⟨uri⟩ world :=
    hhistory.isSteady hne (Or.inl ⟨none, hsound, habsent, fun h => absurd rfl h⟩)
  have hchanges := (operation.run_ensures_hasFailed ⟨uri⟩ world).of_error hrun
  rcases hchanges.tree with hspared | ⟨rows, partitionBy, version, rfl, happended⟩
  · have hunchanged := isUnchanged_of_isSpared hsteady hne hrun hchanges.home hspared
    exact ⟨fun _ => hunchanged, Or.inl hunchanged⟩
  · have hdamaged := Holds.read_of_appended_lost happended
    rw [← hchanges.home] at hdamaged
    refine ⟨fun hstorable => ?_, Or.inr fun further => ?_⟩
    · have hearly := failsEarly_append hstorable hrun
      obtain ⟨_, _, _, -, hwrites, -⟩ := happended
      exact absurd hearly hwrites.commits_ne
    · have hensures := further.run_ensures_of_damaged hdamaged
      cases hfurther : (further.run ⟨uri⟩).start after with
      | mk answer later =>
        cases answer with
        | ok answer => exact (hensures.of_ok hfurther).elim
        | error failure' => exact ⟨failure', rfl⟩

/-- An append with another partition column than the one of the table is refused. -/
theorem isUnchanged_of_failure_other_column :
    let table : Table := ⟨"./t/"⟩
    let world := (((append [⟨1, "a", 0, "odd_user"⟩] ["message"]).run table).start .fresh).2
    ∃ after,
      ((append [⟨2, "b", 0, "even_user"⟩] ["user"]).run table).start world =
          (.error (.table .appending), after) ∧
        IsUnchanged table world after := by
  intro table world
  have huri : StorageMode.localFiles.tableUri "t" "." = .ok table.uri := by decide +kernel
  have hhistory : History table .fresh world :=
    .operation .start (.append [⟨1, "a", 0, "odd_user"⟩] ["message"])
  have habsent : Log.read World.fresh.tree (locate World.fresh.home table.uri) = .absent := by
    decide +kernel
  have hfailure : (((append [⟨2, "b", 0, "even_user"⟩] ["user"]).run table).start world).1 =
      .error (.table .appending) := by
    decide +kernel
  have hstorable : (append [⟨2, "b", 0, "even_user"⟩] ["user"]).IsStorable world.tree
      (locate world.home table.uri) := by
    intro version actions columns _ row hrow column _
    revert row
    cases column <;> decide
  cases hrun : ((append [⟨2, "b", 0, "even_user"⟩] ["user"]).run table).start world with
  | mk answer after =>
    rw [hrun] at hfailure
    obtain rfl : answer = _ := hfailure
    have hunchanged := isUnchanged_of_failure huri World.isSound_fresh habsent hhistory hrun
    exact ⟨after, rfl, hunchanged.1 hstorable⟩

/-- An append with an empty text in the partition column of the table fails, and its readers cannot
open it any more. -/
theorem not_isUnchanged_of_empty_text :
    let table : Table := ⟨"./t/"⟩
    let world := (((append [⟨1, "a", 0, "odd_user"⟩] ["message"]).run table).start .fresh).2
    let result := ((append [⟨2, "", 0, "even_user"⟩] ["message"]).run table).start world
    StorageMode.localFiles.tableUri "t" "." = .ok table.uri ∧ History table .fresh world ∧
      result.1 = .error (.table .appending) ∧
      (table.summary.start world).1 = .ok ⟨0, 1, 1⟩ ∧
      (table.summary.start result.2).1 = .error (.table .opening) ∧
      ¬ IsUnchanged table world result.2 := by
  intro table world result
  have hhistory : History table .fresh world :=
    .operation .start (.append [⟨1, "a", 0, "odd_user"⟩] ["message"])
  have hbefore : (table.summary.start world).1 = .ok ⟨0, 1, 1⟩ := by decide +kernel
  have hafter : (table.summary.start result.2).1 = .error (.table .opening) := by decide +kernel
  refine ⟨by decide +kernel, hhistory, by decide +kernel, hbefore, hafter, fun hunchanged => ?_⟩
  have hsame := hunchanged.summary
  rw [hbefore, hafter] at hsame
  cases hsame

end Operation

end LogTable
