import LogTable.Proofs.FailedOperation
import LogTable.Proofs.Table.Complete
import LogTable.Proofs.Turns
import Mathlib.Algebra.BigOperators.Group.List.Basic

/-!
# What the directory of a table holds

Whatever has been done to a table, and whether it has succeeded or failed, the directory of the
table is well formed (`Table.IsWellFormed`): its commits are those of the versions up to the current
one, no checkpoint is newer, and every live data file is there with rows that agree on the partition
columns.  Hence the numbers of a summary fit together (`TableSummary.Fits`), and a summary is given
whenever there is a table.  Main statement: `Task.isWellFormed_inTurn`.
-/

namespace LogTable

open FileTree Predicate

/-! ### Well-formed directories -/

/-- What stands below a location is what stands at the location and its path from there. -/
theorem FileTree.mem_below {α : Type} {tree : FileTree α} {top path : Location} {entry : Entry α}
    (hpath : path ≠ []) (hfind : tree.find? (top ++ path) = some entry) :
    (path, entry) ∈ tree.below top := by
  rw [tree.find?_eq_some_iff (by simp [hpath])] at hfind
  refine List.mem_map.mpr ⟨(top ++ path, entry), List.mem_filter.mpr ⟨hfind, ?_⟩, by simp⟩
  simp [isBelow, hpath]

namespace Table

/-- The paths of the data files below a place, whether they are live or not. -/
def dataFiles (tree : FileTree Content) (place : Location) : List Location :=
  ((tree.below place).filter fun entry =>
    entry.2.content?.any fun content => content.rows?.isSome).map Prod.fst

/-- The directory of a table agrees with the snapshot of the table. -/
structure IsWellFormed (tree : FileTree Content) (place : Location) (snapshot : Snapshot) :
    Prop where
  /-- There is one commit for each version up to the current one, and no other. -/
  commits : (Log.commits tree place).map Prod.fst = List.range (snapshot.version + 1)
  checkpoints_le : ∀ checkpoint ∈ Log.checkpoints tree place, checkpoint.1 ≤ snapshot.version
  /-- Every live data file is there with at least one row. -/
  stored : ∀ file ∈ snapshot.files, ∃ rows, file.rows? tree place = some rows ∧ rows ≠ []
  /-- The rows of a live data file agree on every partition column. -/
  agree : ∀ file ∈ snapshot.files, ∀ column ∈ snapshot.partitionBy,
    ∀ row ∈ file.rows tree place, ∀ row' ∈ file.rows tree place, row.cell column = row'.cell column

end Table

namespace Snapshot.IsStored

variable {tree : FileTree Content} {place : Location} {snapshot : Snapshot}

/-- A live data file of a stored snapshot has rows. -/
theorem exists_rows (h : snapshot.IsStored tree place) {file : DataFile}
    (hfile : file ∈ snapshot.files) :
    ∃ rows, tree.find? (place ++ file.path) = some (.file (.rows rows)) ∧ rows ≠ [] := by
  obtain ⟨row, rows, hfind, -⟩ := h.stored file hfile
  exact ⟨row :: rows, hfind, List.cons_ne_nil row rows⟩

/-- The rows of a live data file agree on the partition columns. -/
theorem cell_eq (h : snapshot.IsStored tree place) {file : DataFile} (hfile : file ∈ snapshot.files)
    {column : Column} (hcolumn : column ∈ snapshot.partitionBy) {row row' : Row}
    (hrow : row ∈ file.rows tree place) (hrow' : row' ∈ file.rows tree place) :
    row.cell column = row'.cell column := by
  obtain ⟨first, rest, hfind, -, hvalues⟩ := h.stored file hfile
  rw [DataFile.rows_of_find? hfind] at hrow hrow'
  have hsame : Partition.valuesOf snapshot.partitionBy.eraseDups row =
      Partition.valuesOf snapshot.partitionBy.eraseDups row' :=
    (hvalues row hrow).trans (hvalues row' hrow').symm
  have hcells := List.map_inj_left.mp hsame column (List.mem_eraseDups.mpr hcolumn)
  exact congrArg Prod.snd hcells

/-- There are at least as many live rows as live data files. -/
theorem length_files_le (h : snapshot.IsStored tree place) :
    snapshot.files.length ≤ (snapshot.rows tree place).length := by
  rw [Snapshot.rows, List.length_flatMap]
  have hlengths : ∀ n ∈ snapshot.files.map fun file => (file.rows tree place).length, 1 ≤ n := by
    intro n hn
    obtain ⟨file, hfile, rfl⟩ := List.mem_map.mp hn
    obtain ⟨rows, hfind, hne⟩ := h.exists_rows hfile
    rw [DataFile.rows_of_find? hfind]
    exact List.length_pos_iff.mpr hne
  simpa using List.length_le_sum_of_one_le _ hlengths

/-- There are at least as many data files on the machine as live ones. -/
theorem length_files_le_dataFiles (h : snapshot.IsStored tree place) :
    snapshot.files.length ≤ (Table.dataFiles tree place).length := by
  have hsubset : snapshot.files.map DataFile.path ⊆ Table.dataFiles tree place := by
    intro path hpath
    obtain ⟨file, hfile, rfl⟩ := List.mem_map.mp hpath
    obtain ⟨rows, hfind, -⟩ := h.exists_rows hfile
    have hbelow := mem_below (h.isDataPath file hfile).1 hfind
    exact List.mem_map.mpr ⟨_, List.mem_filter.mpr ⟨hbelow, rfl⟩, rfl⟩
  simpa using (List.subperm_of_subset h.nodup hsubset).length_le

end Snapshot.IsStored

/-- A place in order that holds a table is well formed. -/
theorem Table.IsInOrder.isWellFormed {tree : FileTree Content} {place : Location}
    {snapshot : Snapshot} (h : IsInOrder tree place)
    (hread : Log.read tree place = .table snapshot) :
    IsWellFormed tree place snapshot where
  commits := by rw [h.complete.versions, h.complete.length_commits hread]
  checkpoints_le := (Log.isLatest_of_read_eq_table hread).checkpoints_le
  stored file hfile := by
    obtain ⟨rows, hfind, hne⟩ := (h.isStored hread).exists_rows hfile
    exact ⟨rows, DataFile.rows?_of_find? hfind, hne⟩
  agree _ hfile _ hcolumn _ hrow _ hrow' := (h.isStored hread).cell_eq hfile hcolumn hrow hrow'

/-! ### Summaries -/

/-- The numbers of a summary are those of a snapshot, and fit together. -/
structure TableSummary.Fits (summary : TableSummary) (tree : FileTree Content) (place : Location)
    (snapshot : Snapshot) : Prop where
  version : summary.version = snapshot.version
  rows : summary.rows = (snapshot.rows tree place).length
  files : summary.files = snapshot.files.length
  files_le : summary.files ≤ summary.rows
  files_eq_zero_iff : summary.files = 0 ↔ summary.rows = 0
  files_le_dataFiles : summary.files ≤ (Table.dataFiles tree place).length

/-- The numbers of a stored snapshot fit together. -/
theorem Snapshot.IsStored.fits {tree : FileTree Content} {place : Location} {snapshot : Snapshot}
    (h : snapshot.IsStored tree place) :
    TableSummary.Fits ⟨snapshot.version, (snapshot.rows tree place).length, snapshot.files.length⟩
      tree place snapshot where
  version := rfl
  rows := rfl
  files := rfl
  files_le := h.length_files_le
  files_eq_zero_iff := by
    constructor
    · intro hfiles
      simp [Snapshot.rows, List.length_eq_zero_iff.mp hfiles]
    · intro hrows
      have hle := h.length_files_le
      dsimp only at hrows ⊢
      omega
  files_le_dataFiles := h.length_files_le_dataFiles

/-- The summary of a table in a place in order fits the table. -/
theorem Table.IsInOrder.fits {table : Table} {world : World} {snapshot : Snapshot}
    (h : IsInOrder world.tree (locate world.home table.uri))
    (hread : Log.read world.tree (locate world.home table.uri) = .table snapshot)
    {summary : TableSummary} (hsummary : (table.summary.start world).1 = .ok summary) :
    summary.Fits world.tree (locate world.home table.uri) snapshot := by
  have hensures : table.summary.Ensures world
      (fun numbers _ => numbers.Fits world.tree (locate world.home table.uri) snapshot)
      fun _ _ => True := by
    refine Run.ensures_bind ((table.scan_ensures world).mono ?_ fun _ _ _ => trivial)
    rintro ⟨snapshot', rows⟩ after ⟨-, -, hread', hrows⟩
    obtain rfl : snapshot' = snapshot := by
      rw [hread] at hread'
      exact (LogReading.table.inj hread').symm
    have hstored := h.isStored hread
    rw [hstored.rows?_eq_some] at hrows
    obtain rfl := Option.some.inj hrows
    exact Run.ensures_pure hstored.fits
  cases hrun : table.summary.start world with
  | mk answer after =>
    rw [hrun] at hsummary
    obtain rfl : answer = .ok summary := hsummary
    exact hensures.of_ok hrun

/-! ### Readers get to the table -/

/-- A run that only changes its answer in the end leaves what it would leave otherwise. -/
theorem Run.respects_of_bind_pure {α β : Type} {run : Run α} {f : α → β} {R : World → World → Prop}
    (h : (run >>= fun a => pure (f a)).Respects R) : run.Respects R := by
  intro world
  have hworld := h world
  rw [start_bind] at hworld
  split at hworld
  all_goals rename_i hrun; rw [hrun]; exact hworld

namespace Table

/-- No operation leads the machine to another home. -/
theorem home_run [Engine] (table : Table) (operation : Operation) (world : World) :
    ((operation.run table).start world).2.home = world.home := by
  have hinvariant : IsInvariant (locate world.home table.uri) (OnTheWay world.home table.uri)
      fun _ => True :=
    ⟨fun _ => trivial, fun _ _ => trivial, fun _ _ _ => trivial, fun _ _ => trivial,
      fun _ _ => trivial⟩
  exact (operation.respects_run (Operations.respect_stays hinvariant) world rfl trivial).1

/-- Whether a world is steady shows in its files and its home. -/
theorem IsSteady.of_eq {table : Table} {world after : World} (h : table.IsSteady world)
    (htree : after.tree = world.tree) (hhome : after.home = world.home) : table.IsSteady after := by
  obtain ⟨tree, home, journal⟩ := world
  obtain ⟨tree', home', journal'⟩ := after
  obtain rfl : tree' = tree := htree
  obtain rfl : home' = home := hhome
  rcases h with ⟨state, hkeeps⟩ | ⟨hsound, hdamaged⟩
  · refine Or.inl ⟨state, ⟨⟨hkeeps.sound.closed, hkeeps.sound.home⟩, hkeeps.holds, fun hne => ?_⟩⟩
    have hready := hkeeps.isReady hne
    exact ⟨hready.address, hready.found, hready.isDirectory, hready.isOpen⟩
  · exact Or.inr ⟨⟨hsound.closed, hsound.home⟩, hdamaged⟩

end Table

/-- A tree stays closed when a place is cut off. -/
theorem FileTree.IsCut.isClosed {α : Type} {place : Location} {before after : FileTree α}
    (h : IsCut place before after) (hclosed : before.IsClosed) : after.IsClosed := by
  intro l name e hl
  rw [h] at hl
  split_ifs at hl with hplace
  have habove : ¬ place <+: l := fun hbelow => hplace (hbelow.trans (List.prefix_append l [name]))
  rw [h, if_neg habove]
  exact hclosed l name e hl

/-- What is cut off holds no table. -/
theorem FileTree.IsCut.read_eq {place : Location} {before after : FileTree Content}
    (h : IsCut place before after) : Log.read after place = .absent := by
  refine Log.read_eq_absent fun name content hfind => ?_
  have hprefix : place <+: Log.directory place ++ [name] := by
    rw [Log.directory, List.append_assoc]
    exact List.prefix_append place _
  rw [h.isVacant _ hprefix] at hfind
  cases hfind

/-- The operations on the table of an accepted name without slashes keep a machine steady, unless
its home is inside of the table. -/
theorem Operations.respect_staysSteady [Engine] {name root uri : String}
    (huri : StorageMode.localFiles.tableUri name root = .ok uri)
    (hslash : '/' ∉ (trimSlashes name).toList) {home : Location}
    (hhome : ¬ locate home uri <+: home) :
    Respect (Stays home fun tree => Table.IsSteady ⟨uri⟩ { tree, home }) .localFiles uri := by
  have hrun (operation : Operation) : (operation.run ⟨uri⟩).Respects
      (Stays home fun tree => Table.IsSteady ⟨uri⟩ { tree, home }) := by
    rintro world rfl hsteady
    refine ⟨Table.home_run ⟨uri⟩ operation world, ?_⟩
    have hworld : Table.IsSteady ⟨uri⟩ world := hsteady.of_eq rfl rfl
    exact (operation.isSteady_run (StorageMode.ne_empty_of_tableUri huri) hworld).of_eq rfl
      (Table.home_run ⟨uri⟩ operation world).symm
  refine
    { evolution := isEvolution_stays _ _
      append := fun rows partitionBy => Run.respects_of_bind_pure (hrun (.append rows partitionBy))
      delete := fun predicate => Run.respects_of_bind_pure (hrun (.delete predicate))
      checkpoint := Run.respects_of_bind_pure (hrun .checkpoint)
      scan := Run.respects_of_bind_pure (Run.respects_of_bind_pure (hrun .summary))
      resetLocal := Run.respects_stays fun world hworld hsteady => ?_ }
  subst hworld
  refine (StorageMode.resetLocal_ensures_isCut_or_eq huri hslash world).mono ?_ ?_
  · rintro removed after ⟨hsame, hcut | htree⟩
    · refine ⟨hsame, Or.inl ⟨none, ⟨⟨hcut.isClosed hsteady.isSound.closed, ?_⟩, hcut.read_eq,
        fun hne => absurd rfl hne⟩⟩⟩
      rw [hcut, if_neg hhome]
      exact hsteady.isSound.home
    · exact ⟨hsame, hsteady.of_eq htree rfl⟩
  · rintro failure after ⟨hsame, htree⟩
    exact ⟨hsame, hsteady.of_eq htree rfl⟩

/-- On a steady machine that holds a table its summary is given. -/
theorem Table.IsSteady.exists_summary {table : Table} {world : World} {snapshot : Snapshot}
    (h : table.IsSteady world)
    (hread : Log.read world.tree (locate world.home table.uri) = .table snapshot) :
    ∃ summary, (table.summary.start world).1 = .ok summary := by
  rcases h with ⟨state, hkeeps⟩ | ⟨-, hdamaged⟩
  · obtain ⟨plain, rfl, -⟩ := hkeeps.holds.of_read_eq_table hread
    have hensures : table.summary.Ensures world (fun _ _ => True) fun _ _ => False := by
      refine Run.ensures_bind ((Operation.scan_ensures hkeeps).mono
        (fun answer after _ => Run.ensures_pure trivial) ?_)
      rintro failure after ⟨-, -, hnone⟩
      cases hnone
    obtain ⟨summary, after, hrun, -⟩ := hensures.exists_ok
    exact ⟨summary, congrArg Prod.fst hrun⟩
  · exact absurd (hdamaged.symm.trans hread) nofun

/-! ### Any tasks -/

/-- Whatever tasks have been carried out on a table that was not there at first, and whether they
have succeeded or failed: if the place holds a table, its directory is well formed, every summary
fits the table, and there is a summary unless the home of a machine lies inside of the table.  If
the log cannot be read, a commit has added a file with an empty text as its partition value. -/
theorem Task.isWellFormed_inTurn [Engine] {name root uri : String}
    (huri : StorageMode.localFiles.tableUri name root = .ok uri)
    (hslash : '/' ∉ (trimSlashes name).toList) {first : World}
    (habsent : Log.read first.tree (locate first.home uri) = .absent) (tasks : List Task) :
    let place := locate first.home uri
    let world := (Run.inTurn (tasks.map fun task => task.run .localFiles name root) first).2
    (∀ snapshot, Log.read world.tree place = .table snapshot →
      Table.IsWellFormed world.tree place snapshot ∧
      (∀ summary, ((Table.summary ⟨uri⟩).start world).1 = .ok summary →
        summary.Fits world.tree place snapshot) ∧
      (first.IsSound → ¬ place <+: first.home →
        ∃ summary, ((Table.summary ⟨uri⟩).start world).1 = .ok summary)) ∧
    (Log.read world.tree place = .damaged → Log.LosesValue world.tree place) := by
  intro place world
  have hrespects {P : FileTree Content → Prop}
      (h : Operations.Respect (Stays first.home P) .localFiles uri) :
      Stays first.home P first world := by
    refine Run.inTurn_respects h.evolution (fun run hrun => ?_) first
    obtain ⟨task, -, rfl⟩ := List.mem_map.mp hrun
    exact task.respects_run h huri
  obtain ⟨hhome, horder⟩ := hrespects (Operations.respect_stays
    (Table.isInvariant_isInOrder place (Table.OnTheWay first.home uri))) rfl
    ⟨Or.inl ⟨none, habsent⟩, Log.isComplete_of_absent habsent⟩
  have hplace : locate world.home uri = place := congrArg (locate · uri) hhome
  refine ⟨fun snapshot hread => ⟨horder.isWellFormed hread, fun summary hsummary => ?_,
    fun hsound houtside => ?_⟩, horder.complete.losesValue⟩
  · rw [← hplace] at horder hread ⊢
    exact Table.IsInOrder.fits horder hread hsummary
  · have hfirst : Table.IsSteady ⟨uri⟩ first :=
      Or.inl ⟨none, ⟨hsound, habsent, fun hne => absurd rfl hne⟩⟩
    obtain ⟨-, hsteady⟩ := hrespects (Operations.respect_staysSteady huri hslash houtside) rfl
      (hfirst.of_eq rfl rfl)
    have hworld : Table.IsSteady ⟨uri⟩ world := hsteady.of_eq rfl hhome
    rw [← hplace] at hread
    exact hworld.exists_summary hread

/-- On the fresh machine: an append with a partition column, a deletion that empties a file, a
checkpoint, and an append that is refused. -/
theorem Task.isWellFormed_inTurn_append_delete :
    let tasks : List Task := [.step (.append 1 3 ⟨0⟩ "a" ["user"]), .step (.delete "id = 2"),
      .step .checkpoint, .step (.append 4 1 ⟨0⟩ "b" ["message"])]
    let world := (Run.inTurn (tasks.map fun task => task.run .localFiles "t" ".") .fresh).2
    ∃ snapshot summary, Log.read world.tree ["work", "t"] = .table snapshot ∧
      Table.IsWellFormed world.tree ["work", "t"] snapshot ∧
      ((Table.summary ⟨"./t/"⟩).start world).1 = .ok summary ∧
      summary.Fits world.tree ["work", "t"] snapshot ∧ summary = ⟨1, 2, 1⟩ := by
  intro tasks world
  have huri : StorageMode.localFiles.tableUri "t" "." = .ok "./t/" := by decide +kernel
  have hplace : locate World.fresh.home "./t/" = ["work", "t"] := by decide +kernel
  have habsent : Log.read World.fresh.tree (locate World.fresh.home "./t/") = .absent := by
    decide +kernel
  have hsummary : ((Table.summary ⟨"./t/"⟩).start world).1 = .ok ⟨1, 2, 1⟩ := by decide +kernel
  have htable := Task.isWellFormed_inTurn huri (by decide +kernel) habsent tasks
  rw [hplace] at htable
  cases hread : Log.read world.tree ["work", "t"] with
  | table snapshot =>
    obtain ⟨hformed, hfits, -⟩ := htable.1 snapshot hread
    exact ⟨snapshot, _, rfl, hformed, hsummary, hfits _ hsummary, rfl⟩
  | absent | damaged =>
    have hversion : Log.read world.tree ["work", "t"] ≠ .absent ∧
        Log.read world.tree ["work", "t"] ≠ .damaged := by
      decide +kernel
    simp [hread] at hversion

end LogTable
