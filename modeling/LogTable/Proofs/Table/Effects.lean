import LogTable.Proofs.Table.Commit
import LogTable.Table.Append
import LogTable.Table.Checkpoint
import LogTable.Table.Delete
import LogTable.Table.Scan

/-!
# Effects of the operations of a table

What each operation does to the files and the journal of a machine, whether it succeeds or fails:
`append_ensures`, `delete_ensures`, `checkpoint_ensures`, `scan_ensures`.  All of them grow the
files; an append and a deletion may add one version (`Writes`), and a checkpoint replaces two
files of the log.  Nothing is assumed of the machine.
-/

namespace LogTable

open FileTree Predicate

/-! ### Writing a version -/

/-- `after` is `before` with a version: a growth by a data file for each group of rows, and then the
commit of the version. -/
structure Writes (place : Location) (onTheWay : Location → Prop) (version : Nat)
    (groups : List (PartitionValues × List Row)) (files : List DataFile) (actions : List Action)
    (before after : FileTree Content) : Prop where
  nodup : (files.map DataFile.path).Nodup
  exists_growth : ∃ middle, Growth place onTheWay before middle ∧
    List.Forall₂ (Table.IsWritten place before middle) groups files ∧
    Table.Committed place version actions middle after

namespace Writes

variable {place : Location} {onTheWay : Location → Prop} {version : Nat}
  {groups : List (PartitionValues × List Row)} {files : List DataFile} {actions : List Action}
  {before middle after : FileTree Content}

/-- A version leaves all entries as they are. -/
theorem kept (h : Writes place onTheWay version groups files actions before after) {l : Location}
    {e : Entry Content} (hl : before.find? l = some e) : after.find? l = some e := by
  obtain ⟨_, hgrowth, -, hcommitted⟩ := h.exists_growth
  exact hcommitted.kept (hgrowth.kept hl)

theorem version_lt (h : Writes place onTheWay version groups files actions before after) :
    version < Log.digitsLimit := by
  obtain ⟨_, -, -, hcommitted⟩ := h.exists_growth
  exact hcommitted.version_lt.trans (by decide)

/-- The data files of a version are there, each with a group of rows. -/
theorem isWritten (h : Writes place onTheWay version groups files actions before after) :
    List.Forall₂ (Table.IsWritten place before after) groups files := by
  obtain ⟨_, -, hfiles, hcommitted⟩ := h.exists_growth
  exact hfiles.imp fun _ _ hfile =>
    ⟨hfile.described, hfile.isDataPath, hfile.housed, hfile.fresh,
      hcommitted.kept hfile.stored⟩

/-- A version adds its commit. -/
theorem commits_ne (h : Writes place onTheWay version groups files actions before after) :
    Log.commits after place ≠ Log.commits before place := by
  obtain ⟨middle, hgrowth, -, hcommitted⟩ := h.exists_growth
  have hafter : after.find? (Log.commitPath place version) = some (.file (.commit actions)) := by
    rw [hcommitted.eq_put, find?_put _ _ _ Log.commitPath_ne_nil, if_pos rfl]
  rw [← hgrowth.commits_eq]
  exact Log.commits_ne h.version_lt hcommitted.fresh hafter

/-- The next version of a table applies its actions to the table. -/
theorem read_of_table {snapshot : Snapshot}
    (h : Writes place onTheWay (snapshot.version + 1) groups files actions before after)
    (hread : Log.read before place = .table snapshot) :
    Log.read after place =
      Log.ofContents (snapshot.contents.replay actions) (snapshot.version + 1) := by
  obtain ⟨middle, hgrowth, -, hcommitted⟩ := h.exists_growth
  rw [← hgrowth.read_eq] at hread
  rw [hcommitted.eq_put, Log.read_put_commit hread h.version_lt]

/-- The first version of a table applies its actions to nothing. -/
theorem read_of_absent (h : Writes place onTheWay 0 groups files actions before after)
    (hread : Log.read before place = .absent) :
    Log.read after place = Log.ofContents (Contents.empty.replay actions) 0 := by
  obtain ⟨middle, hgrowth, -, hcommitted⟩ := h.exists_growth
  rw [← hgrowth.read_eq] at hread
  rw [hcommitted.eq_put, Log.read_put_first_commit hread]

end Writes

/-- `after` comes from `before` by recording the events and changing the files as `change` says;
a sound world stays sound. -/
structure World.Changes (events : List Event)
    (change : FileTree Content → FileTree Content → Prop) (before after : World) : Prop where
  home : after.home = before.home
  journal : after.journal = before.journal ++ events
  tree : change before.tree after.tree
  sound : before.IsSound → after.IsSound

/-- Recording an event after a change. -/
theorem World.Changes.record {events : List Event}
    {change : FileTree Content → FileTree Content → Prop} {before after : World}
    (h : before.Changes events change after) (event : Event) :
    before.Changes (events ++ [event]) change
      { after with journal := after.journal ++ [event] } where
  home := h.home
  journal := by rw [h.journal, List.append_assoc]
  tree := h.tree
  sound hsound := ⟨(h.sound hsound).closed, (h.sound hsound).home⟩

/-- A change that is of another kind as well. -/
theorem World.Changes.mono {events : List Event}
    {change change' : FileTree Content → FileTree Content → Prop} {before after : World}
    (h : before.Changes events change after)
    (hchange : change before.tree after.tree → change' before.tree after.tree) :
    before.Changes events change' after :=
  ⟨h.home, h.journal, hchange h.tree, h.sound⟩

/-- A sound world stays sound when a file is put into a directory. -/
theorem World.IsSound.put {world : World} (h : world.IsSound) {l : Location}
    {name : String} (content : Content) (hl : world.tree.find? l = some .directory)
    (hnot : world.tree.isDirectory (l ++ [name]) = false) :
    World.IsSound { world with tree := world.tree.put (l ++ [name]) (.file content) } where
  closed := h.closed.put hl fun heq => by simp [isDirectory_eq_true.mpr heq] at hnot
  home := find?_put_of_directory hnot h.home

namespace Table

/-! ### Appending -/

/-- What an append to a log is about to write: the version, the actions in front of the data files,
and the partition columns. -/
inductive Appends (partitionBy : List String) :
    LogReading → Nat → List Action → List Column → Prop where
  | first {columns : List Column} (h : partitionColumns? partitionBy = some columns) :
    Appends partitionBy .absent 0 [.create columns] columns
  | next {snapshot : Snapshot} (h : admits snapshot.partitionBy partitionBy = true) :
    Appends partitionBy (.table snapshot) (snapshot.version + 1) [] snapshot.partitionBy

/-- The rows have been written as a version; `lost` says whether one of its data files has lost a
value. -/
def Appended (place : Location) (onTheWay : Location → Prop) (partitionBy : List String)
    (rows : List Row) (version : Nat) (lost : Bool) (before after : FileTree Content) : Prop :=
  ∃ actions columns files, Appends partitionBy (Log.read before place) version actions columns ∧
    Writes place onTheWay version (Partition.groups columns.eraseDups rows) files
      (actions ++ files.map .add) before after ∧
    files.any Log.hasLostValue = lost

/-- What an append comes to if it fails: it has written nothing but directories and data files
that no version names, or else a version with a lost value. -/
def AppendFailed (place : Location) (onTheWay : Location → Prop) (partitionBy : List String)
    (rows : List Row) (before after : FileTree Content) : Prop :=
  Growth place onTheWay before after ∨
    ∃ version, Appended place onTheWay partitionBy rows version true before after

/-- A world that has grown from `origin` and still can be written to at the place. -/
structure IsGrown (place : Location) (onTheWay : Location → Prop) (origin world : World) :
    Prop where
  grows : origin.Grows place onTheWay world
  sound : origin.IsSound → world.IsSound ∧ world.tree.find? place = some .directory

/-- Growing further. -/
theorem IsGrown.trans {place : Location} {onTheWay : Location → Prop} {origin middle world : World}
    (h : IsGrown place onTheWay origin middle) (hgrows : middle.Grows place onTheWay world) :
    IsGrown place onTheWay origin world where
  grows := h.grows.trans hgrows
  sound hsound := ⟨hgrows.sound (h.sound hsound).1 (h.sound hsound).2,
    hgrows.tree.kept (h.sound hsound).2⟩

/-- A growth changes the files only. -/
theorem IsGrown.changes {place : Location} {onTheWay : Location → Prop} {origin world : World}
    {change : FileTree Content → FileTree Content → Prop} (h : IsGrown place onTheWay origin world)
    (hchange : change origin.tree world.tree) : origin.Changes [] change world :=
  ⟨h.grows.home, by simp [h.grows.journal], hchange, fun hsound => (h.sound hsound).1⟩

/-- The version is written, unless that fails before the commit or a value has been lost. -/
theorem appendVersion_ensures {place : Location} {onTheWay : Location → Prop}
    {partitionBy : List String} {rows : List Row} {origin world : World}
    (hgrown : IsGrown place onTheWay origin world) {version : Nat} {actions : List Action}
    {columns : List Column}
    (happends : Appends partitionBy (Log.read origin.tree place) version actions columns) :
    (appendVersion place version actions columns rows).Ensures world
      (fun _ after =>
        origin.Changes [] (Appended place onTheWay partitionBy rows version false) after ∧
          ∀ l, world.tree.find? l = some .directory → after.tree.find? l = some .directory)
      fun _ after => origin.Changes [] (AppendFailed place onTheWay partitionBy rows) after := by
  unfold appendVersion
  refine Run.ensures_bind ((writeFiles_ensures place onTheWay version .appending
    (fun _ => Partition.ne_nil_of_mem_groups) world).mono ?_ ?_)
  swap
  · intro _ after hgrows
    exact (hgrown.trans hgrows).changes (Or.inl (hgrown.trans hgrows).grows.tree)
  rintro files middle ⟨hgrows, hfiles, hnodup⟩
  have hgrown' := hgrown.trans hgrows
  refine Run.ensures_bind ((commit_ensures place onTheWay version .appending _ middle).mono ?_ ?_)
  swap
  · intro _ after hgrows'
    exact (hgrown'.trans hgrows').changes (Or.inl (hgrown'.trans hgrows').grows.tree)
  rintro _ after ⟨middle', hgrows', hcommitted, heq, hsound⟩
  have hwrites : Writes place onTheWay version (Partition.groups columns.eraseDups rows) files
      (actions ++ files.map .add) origin.tree after.tree :=
    ⟨hnodup, middle'.tree, (hgrown'.trans hgrows').grows.tree,
      hfiles.imp fun _ _ h =>
        (h.of_growth_left hgrown.grows.tree).of_growth_right hgrows'.tree, hcommitted⟩
  have hchanges : ∀ change : FileTree Content → FileTree Content → Prop,
      change origin.tree after.tree → origin.Changes [] change after := fun change hchange =>
    ⟨by rw [heq]; exact (hgrown'.trans hgrows').grows.home,
      by rw [heq, List.append_nil]; exact (hgrown'.trans hgrows').grows.journal, hchange,
      fun h => hsound (hgrown'.sound h).1 (hgrown'.sound h).2⟩
  split_ifs with hlost
  · exact Run.ensures_throw
      (hchanges _ (Or.inr ⟨version, actions, columns, files, happends, hwrites, hlost⟩))
  · exact Run.ensures_pure
      ⟨hchanges _ ⟨actions, columns, files, happends, hwrites, by simpa using hlost⟩,
        fun l hl => hcommitted.kept (hgrows'.tree.kept (hgrows.tree.kept hl))⟩

/-- An append writes the rows as a version, in a place that is open, and readers get to the table
then. -/
theorem append_ensures (table : Table) (rows : List Row) (partitionBy : List String)
    (world : World) :
    (table.append rows partitionBy).Ensures world
      (fun version after => world.Changes [.batchAppended table.uri version rows.length]
          (Appended (locate world.home table.uri) (OnTheWay world.home table.uri) partitionBy rows
            version false) after ∧
        IsOpen after.tree (locate world.home table.uri) ∧
        (world.IsSound → table.uri ≠ "" → table.IsReady after))
      fun _ after => world.Changes []
        (AppendFailed (locate world.home table.uri) (OnTheWay world.home table.uri) partitionBy
          rows) after := by
  set place := locate world.home table.uri
  set onTheWay := OnTheWay world.home table.uri
  unfold append
  refine Run.ensures_bind ((placeForWriting_ensures table world).mono ?_ ?_)
  swap
  · rintro _ after ⟨hgrows, hsound⟩
    exact ⟨hgrows.home, by simp [hgrows.journal], Or.inl hgrows.tree, hsound⟩
  rintro _ middle ⟨rfl, hgrows, hopen, hready⟩
  have hgrown : IsGrown place onTheWay world middle :=
    ⟨hgrows, fun hsound => ⟨(hready hsound).1, (hready hsound).2.1⟩⟩
  have hfailed : world.Changes [] (AppendFailed place onTheWay partitionBy rows) middle :=
    hgrown.changes (Or.inl hgrows.tree)
  have hfinish : ∀ version after,
      world.Changes [] (Appended place onTheWay partitionBy rows version false) after ∧
        (∀ l, middle.tree.find? l = some .directory → after.tree.find? l = some .directory) →
      (do
        Run.record (.batchAppended table.uri version rows.length)
        return version : Run Nat).Ensures after
        (fun version after => world.Changes [.batchAppended table.uri version rows.length]
            (Appended place onTheWay partitionBy rows version false) after ∧
          IsOpen after.tree place ∧ (world.IsSound → table.uri ≠ "" → table.IsReady after))
        fun _ after => world.Changes [] (AppendFailed place onTheWay partitionBy rows) after := by
    rintro version after ⟨hafter, hkept⟩
    refine Run.ensures_bind (Run.ensures_record (Run.ensures_pure
      ⟨hafter.record _, hopen.of_kept hkept, fun hsound hne => ?_⟩))
    exact ((hready hsound).2.2 hne).of_kept (hafter.home.trans hgrows.home.symm) hkept
  refine Run.ensures_bind (Run.ensures_tree ?_)
  rw [hgrows.tree.read_eq]
  cases hread : Log.read world.tree place with
  | damaged => exact Run.ensures_bind (Run.ensures_throw hfailed)
  | absent =>
    cases hcolumns : partitionColumns? partitionBy with
    | none => exact Run.ensures_bind (Run.ensures_throw hfailed)
    | some columns =>
      have happends : Appends partitionBy (Log.read world.tree place) 0 [.create columns] columns :=
        hread ▸ .first hcolumns
      refine Run.ensures_bind ((appendVersion_ensures hgrown happends).mono ?_ fun _ _ h => h)
      intro _ after hafter
      exact Run.ensures_bind (Run.ensures_pure (hfinish 0 after hafter))
  | table snapshot =>
    simp only
    split_ifs with hadmits
    · have happends : Appends partitionBy (Log.read world.tree place) (snapshot.version + 1) []
          snapshot.partitionBy := hread ▸ .next hadmits
      refine Run.ensures_bind ((appendVersion_ensures hgrown happends).mono ?_ fun _ _ h => h)
      intro _ after hafter
      exact Run.ensures_bind (Run.ensures_pure (hfinish _ after hafter))
    · exact Run.ensures_bind (Run.ensures_throw hfailed)

/-! ### Deleting -/

/-- The deletion of a snapshot has been carried out: if files are removed, a version has been
written that adds the rows that stay and removes the files. -/
def CarriedOut (place : Location) (onTheWay : Location → Prop) (snapshot : Snapshot)
    (deletion : Deletion) (version : Nat) (before after : FileTree Content) : Prop :=
  deletion.removed = [] ∧ version = snapshot.version ∧ Growth place onTheWay before after ∨
    deletion.removed ≠ [] ∧ version = snapshot.version + 1 ∧
      ∃ files, Writes place onTheWay version
        (Partition.groups snapshot.partitionBy.eraseDups deletion.kept) files
        (files.map .add ++ deletion.removed.map fun file => .remove file.path) before after

/-- The rows of which a predicate is true have been deleted. -/
def Deleted [Engine] (place : Location) (onTheWay : Location → Prop) (predicate : String)
    (outcome : DeleteOutcome) (before after : FileTree Content) : Prop :=
  ∃ snapshot condition middle deletion, Log.read before place = .table snapshot ∧
    Engine.read? predicate = some condition ∧ Growth place onTheWay before middle ∧
    Deletion.of? middle place snapshot condition = some deletion ∧
    outcome.rowsDeleted = deletion.rowsDeleted ∧
    CarriedOut place onTheWay snapshot deletion outcome.version before after

/-- A deletion is carried out, unless that fails before a commit. -/
theorem carryOut_ensures {place : Location} {onTheWay : Location → Prop} {origin world : World}
    (hgrown : IsGrown place onTheWay origin world) (snapshot : Snapshot) (deletion : Deletion) :
    (carryOut place snapshot deletion).Ensures world
      (fun outcome after => outcome.rowsDeleted = deletion.rowsDeleted ∧
        origin.Changes [] (CarriedOut place onTheWay snapshot deletion outcome.version) after ∧
        ∀ l, world.tree.find? l = some .directory → after.tree.find? l = some .directory)
      fun _ after => origin.Changes [] (Growth place onTheWay) after := by
  unfold carryOut
  split_ifs with hremoved
  · exact Run.ensures_pure
      ⟨rfl, hgrown.changes (Or.inl ⟨hremoved, rfl, hgrown.grows.tree⟩), fun _ hl => hl⟩
  refine Run.ensures_bind ((writeFiles_ensures place onTheWay _ .deleting
    (fun _ => Partition.ne_nil_of_mem_groups) world).mono ?_ ?_)
  swap
  · intro _ after hgrows
    exact (hgrown.trans hgrows).changes (hgrown.trans hgrows).grows.tree
  rintro files middle ⟨hgrows, hfiles, hnodup⟩
  have hgrown' := hgrown.trans hgrows
  refine Run.ensures_bind ((commit_ensures place onTheWay _ .deleting _ middle).mono ?_ ?_)
  swap
  · intro _ after hgrows'
    exact (hgrown'.trans hgrows').changes (hgrown'.trans hgrows').grows.tree
  rintro _ after ⟨middle', hgrows', hcommitted, heq, hsound⟩
  refine Run.ensures_pure ⟨rfl, ⟨?_, ?_, Or.inr ⟨hremoved, rfl, files, hnodup, middle'.tree,
    (hgrown'.trans hgrows').grows.tree, ?_, hcommitted⟩, ?_⟩, ?_⟩
  · rw [heq]
    exact (hgrown'.trans hgrows').grows.home
  · rw [heq, List.append_nil]
    exact (hgrown'.trans hgrows').grows.journal
  · exact hfiles.imp fun _ _ h =>
      (h.of_growth_left hgrown.grows.tree).of_growth_right hgrows'.tree
  · exact fun h => hsound (hgrown'.sound h).1 (hgrown'.sound h).2
  · exact fun l hl => hcommitted.kept (hgrows'.tree.kept (hgrows.tree.kept hl))

/-- A deletion deletes the rows of which the predicate is true.  If it fails, nothing is
committed. -/
theorem delete_ensures [Engine] (table : Table) (predicate : String) (world : World) :
    (table.delete predicate).Ensures world
      (fun outcome after => world.Changes
          [.rowsDeleted table.uri predicate outcome.version outcome.rowsDeleted]
          (Deleted (locate world.home table.uri) (OnTheWay world.home table.uri) predicate outcome)
          after ∧
        (world.IsSound → table.uri ≠ "" → table.IsReady after))
      fun _ after => world.Changes []
        (Growth (locate world.home table.uri) (OnTheWay world.home table.uri)) after := by
  set place := locate world.home table.uri
  set onTheWay := OnTheWay world.home table.uri
  unfold delete
  refine Run.ensures_bind ((placeForWriting_ensures table world).mono ?_ ?_)
  swap
  · rintro _ after ⟨hgrows, hsound⟩
    exact ⟨hgrows.home, by simp [hgrows.journal], hgrows.tree, hsound⟩
  rintro _ middle ⟨rfl, hgrows, -, hready⟩
  have hgrown : IsGrown place onTheWay world middle :=
    ⟨hgrows, fun hsound => ⟨(hready hsound).1, (hready hsound).2.1⟩⟩
  have hfailed : world.Changes [] (Growth place onTheWay) middle := hgrown.changes hgrows.tree
  refine Run.ensures_bind (Run.ensures_tree ?_)
  rw [hgrows.tree.read_eq]
  cases hread : Log.read world.tree place with
  | damaged => exact Run.ensures_bind (Run.ensures_throw hfailed)
  | absent => exact Run.ensures_bind (Run.ensures_throw hfailed)
  | table snapshot =>
    refine Run.ensures_bind (Run.ensures_pure ?_)
    cases hcondition : Engine.read? predicate with
    | none => exact Run.ensures_bind (Run.ensures_throw hfailed)
    | some condition =>
      simp only
      cases hdeletion : Deletion.of? middle.tree place snapshot condition with
      | none => exact Run.ensures_bind (Run.ensures_throw hfailed)
      | some deletion =>
        refine Run.ensures_bind (Run.ensures_pure (Run.ensures_bind
          ((carryOut_ensures hgrown snapshot deletion).mono ?_ fun _ _ h => h)))
        rintro outcome after ⟨hrows, hafter, hkept⟩
        have hchanges : world.Changes [] (Deleted place onTheWay predicate outcome) after :=
          ⟨hafter.home, hafter.journal, ⟨snapshot, condition, middle.tree, deletion, hread,
            hcondition, hgrows.tree, hdeletion, hrows, hafter.tree⟩, hafter.sound⟩
        refine Run.ensures_bind (Run.ensures_record (Run.ensures_pure
          ⟨hchanges.record _, fun hsound hne => ?_⟩))
        exact ((hready hsound).2.2 hne).of_kept (hafter.home.trans hgrows.home.symm) hkept

/-! ### Checkpoints -/

/-- A file of the log is replaced, unless it is a directory. -/
theorem replaceFile_ensures (path : Location) (content : Content) (world : World) :
    (replaceFile path content).Ensures world
      (fun _ after => world.tree.isDirectory path = false ∧
        after = { world with tree := world.tree.put path (.file content) })
      fun failure after => failure = .fault .checkpoint ∧ world.tree.isDirectory path = true ∧
        after = world := by
  unfold replaceFile
  refine Run.ensures_bind (Run.ensures_tree ?_)
  split_ifs with hdirectory
  · exact Run.ensures_bind (Run.ensures_throw ⟨rfl, hdirectory, rfl⟩)
  · exact Run.ensures_setTree ⟨Bool.eq_false_iff.mpr hdirectory, rfl⟩

/-- The snapshot of a place is the one that its log says. -/
theorem snapshotAt_ensures (place : Location) (world : World) :
    (snapshotAt place).Ensures world
      (fun snapshot after => after = world ∧ Log.read world.tree place = .table snapshot)
      fun _ after => after = world ∧ ∀ snapshot, Log.read world.tree place ≠ .table snapshot := by
  unfold snapshotAt
  refine Run.ensures_bind (Run.ensures_tree ?_)
  cases Log.read world.tree place with
  | damaged => exact Run.ensures_throw ⟨rfl, nofun⟩
  | absent => exact Run.ensures_throw ⟨rfl, nofun⟩
  | table snapshot => exact Run.ensures_pure ⟨rfl, rfl⟩

/-- A change that leaves the place as it is, up to directories elsewhere. -/
def ReadOnly (place : Location) (onTheWay : Location → Prop) (before after : FileTree Content) :
    Prop :=
  Growth place onTheWay before after ∧ Untouched place before after

/-- The snapshot of the log has been written as a checkpoint, and its pointer as well if `pointed`
says so. -/
def Checkpointed (place : Location) (onTheWay : Location → Prop) (snapshot : Snapshot)
    (pointed : Bool) (before after : FileTree Content) : Prop :=
  Log.read before place = .table snapshot ∧
    before.isDirectory (Log.checkpointPath place snapshot.version) = false ∧
    before.isDirectory (Log.pointerPath place) = !pointed ∧
    ∃ middle, ReadOnly place onTheWay before middle ∧
      after =
        let written := middle.put (Log.checkpointPath place snapshot.version)
          (.file (.checkpoint snapshot))
        if pointed then written.put (Log.pointerPath place) (.file (.pointer snapshot.version))
        else written

/-- A directory stands where the checkpoint or its pointer is to be. -/
def IsBlocked (tree : FileTree Content) (place : Location) (version : Nat) : Prop :=
  tree.isDirectory (Log.checkpointPath place version) = true ∨
    tree.isDirectory (Log.pointerPath place) = true

/-- What a checkpoint comes to if it fails: nothing is changed at the place, or there is a directory
in the way of the pointer. -/
def CheckpointFailed (place : Location) (onTheWay : Location → Prop)
    (before after : FileTree Content) : Prop :=
  ReadOnly place onTheWay before after ∨
    ∃ snapshot, Checkpointed place onTheWay snapshot false before after

/-- A location below a place is a directory after a change that leaves the place as it is exactly if
it was one before. -/
theorem Untouched.isDirectory_eq {place : Location} {before after : FileTree Content}
    (h : Untouched place before after) (rest : Location) :
    after.isDirectory (place ++ rest) = before.isDirectory (place ++ rest) := by
  rw [isDirectory, h rest]
  rfl

/-- A checkpoint writes the snapshot of the log.  On a readable table that readers get to it fails
only if a directory is in the way. -/
theorem checkpoint_ensures (table : Table) (world : World) :
    table.checkpoint.Ensures world
      (fun version after => ∃ snapshot, version = snapshot.version ∧
        world.Changes [.checkpointCreated table.uri version]
          (Checkpointed (locate world.home table.uri) (OnTheWay world.home table.uri) snapshot true)
          after ∧
        table.IsReady after)
      fun failure after => world.Changes []
          (CheckpointFailed (locate world.home table.uri) (OnTheWay world.home table.uri)) after ∧
        ∀ snapshot, table.IsReady world →
          Log.read world.tree (locate world.home table.uri) = .table snapshot →
          failure = .fault .checkpoint ∧
            IsBlocked world.tree (locate world.home table.uri) snapshot.version := by
  set place := locate world.home table.uri
  set onTheWay := OnTheWay world.home table.uri
  unfold checkpoint
  refine Run.ensures_bind ((placeForReading_ensures table world).mono ?_ ?_)
  swap
  · rintro _ after ⟨hgrows, hsound, huntouched, hready⟩
    exact ⟨⟨hgrows.home, by simp [hgrows.journal], Or.inl ⟨hgrows.tree, huntouched⟩, hsound⟩,
      fun _ h => absurd h hready⟩
  rintro _ middle ⟨rfl, hgrows, hsound, huntouched, hready⟩
  have hread : Log.read middle.tree place = Log.read world.tree place := hgrows.tree.read_eq
  have hreadOnly : ReadOnly place onTheWay world.tree middle.tree := ⟨hgrows.tree, huntouched⟩
  have hfailed : world.Changes [] (CheckpointFailed place onTheWay) middle :=
    ⟨hgrows.home, by simp [hgrows.journal], Or.inl hreadOnly, hsound⟩
  refine Run.ensures_bind ((snapshotAt_ensures place middle).mono ?_ ?_)
  swap
  · rintro _ _ ⟨rfl, hnone⟩
    exact ⟨hfailed, fun snapshot _ h => absurd (hread.trans h) (hnone snapshot)⟩
  rintro snapshot middle ⟨rfl, hsnapshot⟩
  have hread' : Log.read world.tree place = .table snapshot := hread.symm.trans hsnapshot
  have hsame : ∀ version, Log.read world.tree place = .table version → version = snapshot :=
    fun version h => LogReading.table.inj (h.symm.trans hread')
  have hcheckpoint : middle.tree.isDirectory (Log.checkpointPath place snapshot.version) =
      world.tree.isDirectory (Log.checkpointPath place snapshot.version) := by
    rw [Log.checkpointPath_eq, huntouched.isDirectory_eq]
  refine Run.ensures_bind ((replaceFile_ensures _ _ middle).mono ?_ ?_)
  swap
  · rintro _ _ ⟨rfl, hdirectory, rfl⟩
    refine ⟨hfailed, fun snapshot' _ h => ⟨rfl, Or.inl ?_⟩⟩
    rw [hsame snapshot' h, ← hcheckpoint, hdirectory]
  rintro _ _ ⟨hfree, rfl⟩
  have hlog : middle.IsSound → middle.tree.find? (Log.directory place) = some .directory :=
    fun h => Log.find?_directory_of_read_eq_table h.closed hsnapshot
  set written := middle.tree.put (Log.checkpointPath place snapshot.version)
    (.file (.checkpoint snapshot))
  have hkept : ∀ l, middle.tree.find? l = some .directory → written.find? l = some .directory :=
    fun l hl => find?_put_of_directory hfree hl
  have hwritten : world.IsSound → World.IsSound { middle with tree := written } :=
    fun h => (hsound h).put _ (hlog (hsound h)) hfree
  have hpointer : written.isDirectory (Log.pointerPath place) =
      world.tree.isDirectory (Log.pointerPath place) := by
    rw [isDirectory, find?_put _ _ _ Log.checkpointPath_ne_nil,
      if_neg (Log.checkpointPath_ne_pointerPath place _).symm, Log.pointerPath_eq, huntouched]
    rfl
  refine Run.ensures_bind ((replaceFile_ensures _ _ _).mono ?_ ?_)
  · rintro _ _ ⟨hfreePointer, rfl⟩
    refine Run.ensures_bind (Run.ensures_record (Run.ensures_pure ⟨snapshot, rfl,
      ⟨hgrows.home, by simp [hgrows.journal], ⟨hread', hcheckpoint.symm.trans hfree, ?_,
        middle.tree, hreadOnly, rfl⟩, fun h => ?_⟩, ?_⟩))
    · rw [← hpointer, hfreePointer]
      rfl
    · have hsound' := (hwritten h).put (.pointer snapshot.version)
        (hkept _ (hlog (hsound h))) hfreePointer
      exact ⟨hsound'.closed, hsound'.home⟩
    · exact hready.of_kept rfl fun l hl => find?_put_of_directory hfreePointer (hkept l hl)
  · rintro _ _ ⟨rfl, hdirectory, rfl⟩
    have hdirectory' : world.tree.isDirectory (Log.pointerPath place) = true :=
      hpointer.symm.trans hdirectory
    exact ⟨⟨hgrows.home, by simp [hgrows.journal], Or.inr ⟨snapshot, hread',
      hcheckpoint.symm.trans hfree, by simpa using hdirectory', middle.tree, hreadOnly, rfl⟩,
      hwritten⟩, fun _ _ _ => ⟨rfl, Or.inr hdirectory'⟩⟩

/-! ### Reading -/

/-- The live rows of a snapshot depend only on the files at the place. -/
theorem rows?_of_untouched {place : Location} {before after : FileTree Content}
    (h : Untouched place before after) (snapshot : Snapshot) :
    snapshot.rows? after place = snapshot.rows? before place := by
  have hrows : DataFile.rows? after place = DataFile.rows? before place := by
    funext file
    rw [DataFile.rows?, content?, h file.path]
    rfl
  rw [Snapshot.rows?, hrows, Snapshot.rows?]

/-- A scan gives the snapshot of the log and its rows, and fails only if readers do not get to the
table or one of the two cannot be read. -/
theorem scan_ensures (table : Table) (world : World) :
    table.scan.Ensures world
      (fun answer after =>
        world.Changes [] (ReadOnly (locate world.home table.uri) (OnTheWay world.home table.uri))
          after ∧
        table.IsReady after ∧
        Log.read world.tree (locate world.home table.uri) = .table answer.1 ∧
        answer.1.rows? world.tree (locate world.home table.uri) = some answer.2)
      fun _ after =>
        world.Changes [] (ReadOnly (locate world.home table.uri) (OnTheWay world.home table.uri))
          after ∧
        ∀ snapshot rows, table.IsReady world →
          Log.read world.tree (locate world.home table.uri) = .table snapshot →
          snapshot.rows? world.tree (locate world.home table.uri) ≠ some rows := by
  set place := locate world.home table.uri
  unfold scan
  refine Run.ensures_bind ((placeForReading_ensures table world).mono ?_ ?_)
  swap
  · rintro _ after ⟨hgrows, hsound, huntouched, hready⟩
    exact ⟨⟨hgrows.home, by simp [hgrows.journal], ⟨hgrows.tree, huntouched⟩, hsound⟩,
      fun _ _ h => absurd h hready⟩
  rintro _ after ⟨rfl, hgrows, hsound, huntouched, hready⟩
  have hchanges : world.Changes [] (ReadOnly place (OnTheWay world.home table.uri)) after :=
    ⟨hgrows.home, by simp [hgrows.journal], ⟨hgrows.tree, huntouched⟩, hsound⟩
  refine Run.ensures_bind ((snapshotAt_ensures place after).mono ?_ ?_)
  swap
  · rintro _ _ ⟨rfl, hnone⟩
    exact ⟨hchanges, fun snapshot _ _ h =>
      absurd (hgrows.tree.read_eq.trans h) (hnone snapshot)⟩
  rintro snapshot after ⟨rfl, hsnapshot⟩
  have hread : Log.read world.tree place = .table snapshot :=
    hgrows.tree.read_eq.symm.trans hsnapshot
  refine Run.ensures_bind (Run.ensures_tree ?_)
  rw [rows?_of_untouched huntouched]
  cases hrows : snapshot.rows? world.tree place with
  | none =>
    refine Run.ensures_throw ⟨hchanges, fun snapshot' rows _ h => ?_⟩
    rw [← LogReading.table.inj (hread.symm.trans h), hrows]
    exact nofun
  | some rows => exact Run.ensures_pure ⟨hchanges, hready, hread, hrows⟩

end Table

end LogTable
