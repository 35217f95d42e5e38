import LogTable.Proofs.Table.Complete
import LogTable.Proofs.Table.Room

/-!
# Live files

Which data files are live, by the reading of the log.  An append adds the files that it has written
to the live ones (`Table.Appended.exists_files_eq`), and a deletion adds some and drops some.  Each
lies in the directory of its partition values (`DataFile.IsHoused`), which therefore is there and
can take further files: where a place has been reached, a version that rewrites live rows has room
as soon as there is room for its commit.  Main statement: `Table.hasRoom_of_deletion`.
-/

namespace LogTable

open FileTree Predicate

namespace LogReading

/-- The live files. -/
def files : LogReading → List DataFile
  | .table snapshot => snapshot.files
  | .absent | .damaged => []

/-- The partition columns of the table, or those that an append would give it. -/
def partitionNames (given : List String) : LogReading → List String
  | .table snapshot => snapshot.partitionBy.map Column.name
  | .absent | .damaged => given

end LogReading

/-- A log amounts to the files of its contents, if it can be read. -/
theorem Log.files_ofContents_subset (contents : Contents) (version : Nat) :
    (ofContents contents version).files ⊆ contents.files := by
  intro file hfile
  cases hread : ofContents contents version with
  | table snapshot =>
    rw [(ofContents_eq_table_iff.mp hread).1]
    rwa [hread] at hfile
  | absent => simp [hread, LogReading.files] at hfile
  | damaged => simp [hread, LogReading.files] at hfile

namespace Table

variable {place : Location} {onTheWay : Location → Prop} {before after : FileTree Content}

/-- The columns of a new table have the names that it is given. -/
theorem map_name_of_partitionColumns? {names : List String} {columns : List Column}
    (h : partitionColumns? names = some columns) : columns.map Column.name = names := by
  unfold partitionColumns? at h
  cases hcolumns : names.mapM Column.ofName? with
  | none => simp [hcolumns] at h
  | some columns' =>
    simp only [hcolumns, Option.bind_eq_bind, Option.bind_some] at h
    split_ifs at h
    obtain rfl := Option.some.inj h
    rw [mapM_eq_some_iff] at hcolumns
    rw [← List.forall₂_eq_eq_eq, List.forall₂_map_left_iff]
    refine (hcolumns.imp fun name column hname => ?_).flip
    have hfound := List.find?_some hname
    simpa [flip] using hfound

/-- An append adds a live file for each group of its rows, and keeps the partition columns. -/
theorem Appended.exists_files_eq {partitionBy : List String} {rows : List Row} {version : Nat}
    (h : Appended place onTheWay partitionBy rows version false before after) :
    (Log.read after place).partitionNames partitionBy =
        (Log.read before place).partitionNames partitionBy ∧
      ∃ (columns : List Column) (files : List DataFile),
        columns.map Column.name = (Log.read before place).partitionNames partitionBy ∧
        List.Forall₂ (IsWritten place before after) (Partition.groups columns.eraseDups rows)
          files ∧
        (Log.read after place).files = (Log.read before place).files ++ files := by
  obtain ⟨actions, columns, files, happends, hwrites, hlost⟩ := h
  have hwritten := hwrites.isWritten
  generalize hread : Log.read before place = reading at happends
  cases happends with
  | first hcolumns =>
    have hafter : Log.read after place = .table ⟨0, columns, files⟩ := by
      rw [hwrites.read_of_absent hread, List.singleton_append, Contents.replay_cons,
        Contents.replay_map_add, Log.ofContents_eq_table_iff]
      exact ⟨rfl, rfl, hlost⟩
    have hnames := map_name_of_partitionColumns? hcolumns
    rw [hafter]
    exact ⟨hnames, columns, files, hnames, hwritten, rfl⟩
  | @next snapshot hadmits =>
    have hafter : Log.read after place =
        .table ⟨snapshot.version + 1, snapshot.partitionBy, snapshot.files ++ files⟩ := by
      rw [hwrites.read_of_table hread, List.nil_append, Contents.replay_map_add,
        Log.ofContents_eq_table_iff]
      refine ⟨rfl, rfl, ?_⟩
      rw [List.any_append, (Log.isLatest_of_read_eq_table hread).not_hasLostValue, hlost]
      rfl
    rw [hafter]
    exact ⟨rfl, snapshot.partitionBy, files, rfl, hwritten, rfl⟩

/-- After a deletion a live file has been live before, or is one that the deletion has written. -/
theorem Deleted.isWritten_of_mem_files [Engine] {predicate : String} {outcome : DeleteOutcome}
    (h : Deleted place onTheWay predicate outcome before after) {file : DataFile}
    (hfile : file ∈ (Log.read after place).files) :
    file ∈ (Log.read before place).files ∨ ∃ group, IsWritten place before after group file := by
  obtain ⟨snapshot, condition, middle, deletion, hread, -, -, -, -, hcarried⟩ := h
  rcases hcarried with ⟨-, -, hgrowth⟩ | ⟨-, hnext, files, hwrites⟩
  · exact Or.inl (hgrowth.read_eq ▸ hfile)
  · rw [hnext] at hwrites
    rw [hwrites.read_of_table hread] at hfile
    have hcontents := Log.files_ofContents_subset _ _ hfile
    rw [Contents.replay_deletion] at hcontents
    rcases List.mem_append.mp (List.mem_of_mem_filter hcontents) with hold | hnew
    · rw [hread]
      exact Or.inl hold
    · obtain ⟨group, -, hwritten⟩ := exists_mem_of_forall₂_right hwrites.isWritten hnew
      exact Or.inr ⟨group, hwritten⟩

end Table

/-! ### Directories of live files -/

/-- The data file lies in the directory of its partition values, the names of which fit. -/
def DataFile.IsHoused (file : DataFile) : Prop :=
  ∃ name, file.path = Partition.directory file.partition ++ [name] ∧
    ∀ part ∈ Partition.directory file.partition, fits part = true

theorem Table.IsWritten.isHoused {place : Location} {before after : FileTree Content}
    {group : PartitionValues × List Row} {file : DataFile}
    (h : IsWritten place before after group file) : file.IsHoused := by
  rw [DataFile.IsHoused, h.partition]
  exact h.housed

namespace Table

/-- Live files stay where they are, and new ones come into the directories of their values. -/
theorem isInvariant_isHoused [Engine] (place : Location) (onTheWay : Location → Prop) :
    IsInvariant place onTheWay fun tree => ∀ file ∈ (Log.read tree place).files, file.IsHoused where
  of_absent habsent := by
    rw [habsent]
    exact nofun
  of_growth h hgrowth := by
    rw [hgrowth.read_eq]
    exact h
  of_appended {before after partitionBy rows version lost} h _ happended := by
    intro file hfile
    cases lost with
    | true =>
      rw [Holds.read_of_appended_lost happended] at hfile
      cases hfile
    | false =>
      obtain ⟨-, columns, files, -, hwritten, hfiles⟩ := happended.exists_files_eq
      rw [hfiles] at hfile
      rcases List.mem_append.mp hfile with hold | hnew
      · exact h file hold
      · obtain ⟨group, -, hgroup⟩ := exists_mem_of_forall₂_right hwritten hnew
        exact hgroup.isHoused
  of_deleted h hdeleted := by
    intro file hfile
    rcases hdeleted.isWritten_of_mem_files hfile with hold | ⟨group, hgroup⟩
    · exact h file hold
    · exact hgroup.isHoused
  of_checkpointed h hcheckpointed := by
    rw [hcheckpointed.read_eq]
    exact h

end Table

/-- In a place that has been reached, live files lie in the directories of their values. -/
theorem Reached.isHoused [Engine] {place : Location} {world : World} (h : Reached place world)
    {file : DataFile} (hfile : file ∈ (Log.read world.tree place).files) : file.IsHoused := by
  refine h.of_isInvariant (Table.isInvariant_isHoused place) (fun hbefore huntouched => ?_) file
    hfile
  rwa [huntouched.read_eq]

/-! ### Room beside live files -/

/-- The way to the directory of a live file is free. -/
theorem Snapshot.IsStored.isFree {tree : FileTree Content} {place : Location} {snapshot : Snapshot}
    (h : snapshot.IsStored tree place) (hclosed : tree.IsClosed) {file : DataFile}
    (hfile : file ∈ snapshot.files) (hhoused : file.IsHoused) :
    tree.IsFree place (Partition.directory file.partition) := by
  obtain ⟨name, hpath, hfits⟩ := hhoused
  obtain ⟨row, rows, hfind, -⟩ := h.stored file hfile
  rw [hpath, ← List.append_assoc] at hfind
  have hdirectory := hclosed _ _ _ hfind
  refine ⟨hfits, fun path hpath content hcontent => ?_⟩
  have hprefix := (List.prefix_append_right_inj place).mpr hpath
  cases hcontent.symm.trans (hclosed.of_prefix hprefix hdirectory)

namespace Table

variable {tree : FileTree Content} {place : Location} {snapshot : Snapshot}

/-- The next version of a table can be committed unless a directory stands in its place. -/
theorem hasCommitRoom_next (hclosed : tree.IsClosed) (hread : Log.read tree place = .table snapshot)
    (hlimit : snapshot.version + 1 < versionLimit)
    (hnot : tree.isDirectory (Log.commitPath place (snapshot.version + 1)) = false) :
    HasCommitRoom tree place (snapshot.version + 1) where
  version_lt := hlimit
  isFree := by
    have hlog := Log.find?_directory_of_read_eq_table hclosed hread
    refine ⟨by decide +kernel, fun path hpath content hcontent => ?_⟩
    have hprefix := (List.prefix_append_right_inj place).mpr hpath
    cases hcontent.symm.trans (hclosed.of_prefix hprefix hlog)
  find?_commit := by
    cases hfind : tree.find? (Log.commitPath place (snapshot.version + 1)) with
    | none => rfl
    | some entry =>
      cases entry with
      | directory =>
        rw [isDirectory_eq_true.mpr hfind] at hnot
        cases hnot
      | file content =>
        -- what stands there is a commit, and there is none after the one of the version
        have hcommit := Log.mem_commits_iff.mpr ⟨hlimit.trans (by decide), hfind⟩
        have hle := (Log.isLatest_of_read_eq_table hread).commits_le _ hcommit
        exact absurd hle (Nat.not_succ_le_self _)

/-- A version that rewrites live rows has room if its commit has. -/
theorem hasRoom_of_deletion [Engine] (hclosed : tree.IsClosed)
    (hstored : snapshot.IsStored tree place) (hhoused : ∀ file ∈ snapshot.files, file.IsHoused)
    {condition : Engine.Condition} {deletion : Deletion}
    (hdeletion : Deletion.of? tree place snapshot condition = some deletion) {version : Nat}
    (hcommit : HasCommitRoom tree place version) :
    HasRoom tree place version
      (Partition.groups snapshot.partitionBy.eraseDups deletion.kept) where
  isFree group hgroup := by
    -- the values of a group are those of the live file that its first row comes from
    obtain ⟨row, hrow⟩ := List.exists_mem_of_ne_nil _ (Partition.ne_nil_of_mem_groups hgroup)
    obtain ⟨hkept, hvalues⟩ := Partition.mem_of_mem_groups hgroup hrow
    obtain ⟨file, hfile, hmem⟩ := (Deletion.isExact hstored hdeletion).exists_of_mem_kept hkept
    obtain ⟨first, rest, hfind, -, hpartition⟩ := hstored.stored file hfile
    rw [DataFile.rows_of_find? hfind] at hmem
    rw [← hvalues, hpartition row hmem]
    exact hstored.isFree hclosed hfile (hhoused file hfile)
  commit := hcommit

end Table

end LogTable
