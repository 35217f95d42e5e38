import LogTable.Proofs.Table.Effects
import LogTable.Proofs.Table.Partition

/-!
# Stored snapshots

A snapshot is stored if each of its live data files is on the machine with at least one row, and
is described correctly by the snapshot (`Snapshot.IsStored`).  The live rows of a stored snapshot
are those of its files (`Snapshot.IsStored.rows?_eq_some`).  A version that adds the data files
for some rows and keeps some of the older files leads from a stored snapshot to a stored snapshot
(`Snapshot.IsStored.add`).
-/

namespace LogTable

open FileTree

namespace DataFile

/-- The rows of a data file; none if the file cannot be read. -/
def rows (tree : FileTree Content) (place : Location) (file : DataFile) : List Row :=
  (file.rows? tree place).getD []

variable {tree : FileTree Content} {place : Location} {file : DataFile} {rows : List Row}

theorem rows?_of_find? (h : tree.find? (place ++ file.path) = some (.file (.rows rows))) :
    file.rows? tree place = some rows := by
  rw [rows?, content?_eq_some_iff.mpr h]
  rfl

theorem rows_of_find? (h : tree.find? (place ++ file.path) = some (.file (.rows rows))) :
    file.rows tree place = rows := by
  rw [DataFile.rows, rows?_of_find? h]
  rfl

end DataFile

namespace Snapshot

/-- The live rows of a snapshot, file by file. -/
def rows (tree : FileTree Content) (place : Location) (snapshot : Snapshot) : List Row :=
  snapshot.files.flatMap (DataFile.rows tree place)

/-- Each live data file is on the machine, outside of the log, with rows that it describes. -/
structure IsStored (tree : FileTree Content) (place : Location) (snapshot : Snapshot) : Prop where
  /-- No data file is live twice. -/
  nodup : (snapshot.files.map DataFile.path).Nodup
  isDataPath : ∀ file ∈ snapshot.files, IsDataPath file.path
  /-- The bounds of a file are those of its rows, and all of them have its partition values. -/
  stored : ∀ file ∈ snapshot.files, ∃ row rows,
    tree.find? (place ++ file.path) = some (.file (.rows (row :: rows))) ∧
      file = .ofRows file.path file.partition row rows ∧
      ∀ r ∈ row :: rows, Partition.valuesOf snapshot.partitionBy.eraseDups r = file.partition

variable {before after tree : FileTree Content} {place : Location} {snapshot : Snapshot}

/-- All rows of a stored snapshot can be read. -/
theorem IsStored.rows?_eq_some (h : snapshot.IsStored tree place) :
    snapshot.rows? tree place = some (snapshot.rows tree place) := by
  have hread : snapshot.files.mapM (DataFile.rows? tree place) =
      some (snapshot.files.map (DataFile.rows tree place)) := by
    rw [mapM_eq_some_iff, List.forall₂_map_right_iff, List.forall₂_same]
    intro file hfile
    obtain ⟨row, rows, hfind, -⟩ := h.stored file hfile
    rw [DataFile.rows_of_find? hfind, DataFile.rows?_of_find? hfind]
  rw [rows?, hread, Option.map_some, ← List.flatMap_def]
  rfl

/-- The live data files of a snapshot have the same rows as long as they are there. -/
theorem IsStored.rows_eq_of_kept (h : snapshot.IsStored before place)
    (hkept : ∀ path rows, IsDataPath path →
      before.find? (place ++ path) = some (.file (.rows rows)) →
      after.find? (place ++ path) = some (.file (.rows rows))) :
    ∀ file ∈ snapshot.files, file.rows after place = file.rows before place := by
  intro file hfile
  obtain ⟨row, rows, hfind, -⟩ := h.stored file hfile
  rw [DataFile.rows_of_find? hfind,
    DataFile.rows_of_find? (hkept file.path _ (h.isDataPath file hfile) hfind)]

/-- A snapshot is still stored, with the same rows, as long as its data files are. -/
theorem IsStored.of_kept (h : snapshot.IsStored before place)
    (hkept : ∀ path rows, IsDataPath path →
      before.find? (place ++ path) = some (.file (.rows rows)) →
      after.find? (place ++ path) = some (.file (.rows rows))) :
    snapshot.IsStored after place ∧ snapshot.rows after place = snapshot.rows before place := by
  refine ⟨⟨h.nodup, h.isDataPath, fun file hfile => ?_⟩,
    List.flatMap_congr (h.rows_eq_of_kept hkept)⟩
  obtain ⟨row, rows, hfind, hdescribed⟩ := h.stored file hfile
  exact ⟨row, rows, hkept file.path _ (h.isDataPath file hfile) hfind, hdescribed⟩

/-- A new data file stands where nothing stood, so it is none of the live files. -/
theorem IsStored.path_ne {onTheWay : Location → Prop} {version : Nat}
    {groups : List (PartitionValues × List Row)} {files : List DataFile} {actions : List Action}
    (h : snapshot.IsStored before place)
    (hwrites : Writes place onTheWay version groups files actions before after)
    {old file : DataFile} (hold : old ∈ snapshot.files) (hfile : file ∈ files) :
    old.path ≠ file.path := by
  intro hpath
  obtain ⟨row, rows, hfind, -⟩ := h.stored old hold
  obtain ⟨group, -, hgroup⟩ := exists_mem_of_forall₂_right hwrites.isWritten hfile
  have hfresh := hgroup.fresh
  rw [← hpath, hfind] at hfresh
  cases hfresh

/-- New data files for rows of the live files lose no value if the live files have not. -/
theorem IsStored.not_hasLostValue {onTheWay : Location → Prop} {version : Nat}
    {newRows : List Row} {files : List DataFile} {actions : List Action}
    (h : snapshot.IsStored before place)
    (hwrites : Writes place onTheWay version
      (Partition.groups snapshot.partitionBy.eraseDups newRows) files actions before after)
    (hrows : ∀ row ∈ newRows, ∃ old ∈ snapshot.files, row ∈ old.rows before place)
    (hlost : snapshot.files.any Log.hasLostValue = false) :
    files.any Log.hasLostValue = false := by
  refine List.any_eq_false.mpr fun file hfile => ?_
  obtain ⟨group, hmem, hgroup⟩ := exists_mem_of_forall₂_right hwrites.isWritten hfile
  obtain ⟨row, rows, hgroupRows, -⟩ := hgroup.described
  -- the group has the partition values of the live file that its first row comes from
  obtain ⟨hrow, hvalues⟩ := Partition.mem_of_mem_groups hmem (hgroupRows ▸ List.mem_cons_self)
  obtain ⟨old, hold, hrowOld⟩ := hrows row hrow
  obtain ⟨first, others, hfind, -, hpartition⟩ := h.stored old hold
  rw [DataFile.rows_of_find? hfind] at hrowOld
  have heq : file.partition = old.partition := by
    rw [hgroup.partition, ← hvalues, hpartition row hrowOld]
  have hkept := List.any_eq_false.mp hlost old hold
  rwa [Log.hasLostValue, ← heq] at hkept

/-- A version that adds the data files for some rows and keeps some of the live files leads to a
stored snapshot, with the rows of the files that are kept and the new rows. -/
theorem IsStored.add {onTheWay : Location → Prop} {version : Nat} {newRows : List Row}
    {kept files : List DataFile} {actions : List Action} (h : snapshot.IsStored before place)
    (hkept : kept.Sublist snapshot.files)
    (hwrites : Writes place onTheWay version
      (Partition.groups snapshot.partitionBy.eraseDups newRows) files actions before after) :
    let next : Snapshot := ⟨version, snapshot.partitionBy, kept ++ files⟩
    next.IsStored after place ∧
      (next.rows after place).Perm (kept.flatMap (DataFile.rows before place) ++ newRows) := by
  have hwritten := hwrites.isWritten
  have hold : ∀ file ∈ kept, ∃ row rows,
      before.find? (place ++ file.path) = some (.file (.rows (row :: rows))) ∧
        file = .ofRows file.path file.partition row rows ∧
        ∀ r ∈ row :: rows, Partition.valuesOf snapshot.partitionBy.eraseDups r = file.partition :=
    fun file hfile => h.stored file (hkept.subset hfile)
  refine ⟨⟨?_, fun file hfile => ?_, fun file hfile => ?_⟩, ?_⟩
  · rw [List.map_append, List.nodup_append]
    refine ⟨h.nodup.sublist (hkept.map _), hwrites.nodup, ?_⟩
    intro path hpath path' hpath'
    obtain ⟨old, hold, rfl⟩ := List.mem_map.mp hpath
    obtain ⟨file, hfile, rfl⟩ := List.mem_map.mp hpath'
    exact h.path_ne hwrites (hkept.subset hold) hfile
  · rcases List.mem_append.mp hfile with hfile | hfile
    · exact h.isDataPath file (hkept.subset hfile)
    · obtain ⟨group, -, hgroup⟩ := exists_mem_of_forall₂_right hwritten hfile
      exact hgroup.isDataPath
  · rcases List.mem_append.mp hfile with hfile | hfile
    · obtain ⟨row, rows, hfind, hdescribed⟩ := hold file hfile
      exact ⟨row, rows, hwrites.kept hfind, hdescribed⟩
    · obtain ⟨group, hmem, hgroup⟩ := exists_mem_of_forall₂_right hwritten hfile
      obtain ⟨row, rows, hrows, hdescribed⟩ := hgroup.described
      refine ⟨row, rows, hrows ▸ hgroup.stored, ?_, fun r hr => ?_⟩
      · rw [hgroup.partition]
        exact hdescribed
      · rw [hgroup.partition]
        exact (Partition.mem_of_mem_groups hmem (hrows ▸ hr)).2
  · have hkeptRows : kept.flatMap (DataFile.rows after place) =
        kept.flatMap (DataFile.rows before place) := by
      refine List.flatMap_congr fun file hfile => ?_
      obtain ⟨row, rows, hfind, -⟩ := hold file hfile
      rw [DataFile.rows_of_find? hfind, DataFile.rows_of_find? (hwrites.kept hfind)]
    have hnewRows : (Partition.groups snapshot.partitionBy.eraseDups newRows).map Prod.snd =
        files.map (DataFile.rows after place) := by
      rw [← List.forall₂_eq_eq_eq, List.forall₂_map_left_iff, List.forall₂_map_right_iff]
      exact hwritten.imp fun group file hgroup => (DataFile.rows_of_find? hgroup.stored).symm
    rw [rows, List.flatMap_append, hkeptRows]
    refine List.Perm.append_left _ ?_
    rw [List.flatMap_def, ← hnewRows, ← List.flatMap_def]
    exact Partition.flatMap_groups_perm _ newRows

end Snapshot

end LogTable
