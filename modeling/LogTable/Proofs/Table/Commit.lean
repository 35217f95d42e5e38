import LogTable.Proofs.Table.Log
import LogTable.Proofs.Traversal

/-!
# Writing a version

The data files of a version are written under names that are new, one for each group of rows
(`writeFiles_ensures`), and the commit of the version takes a place where nothing stands
(`commit_ensures`).  Neither needs anything of the files that are there.
-/

namespace LogTable.Table

open FileTree

/-- `file` has been written for a group of rows: nothing stood in its place before, and now its rows
do. -/
structure IsWritten (place : Location) (before after : FileTree Content)
    (group : PartitionValues × List Row) (file : DataFile) : Prop where
  described : ∃ row rows, group.2 = row :: rows ∧ file = .ofRows file.path group.1 row rows
  isDataPath : IsDataPath file.path
  /-- It lies in the directory of the values of the group, the names of which fit. -/
  housed : ∃ name, file.path = Partition.directory group.1 ++ [name] ∧
    ∀ part ∈ Partition.directory group.1, fits part = true
  fresh : before.find? (place ++ file.path) = none
  stored : after.find? (place ++ file.path) = some (.file (.rows group.2))

namespace IsWritten

variable {place : Location} {onTheWay : Location → Prop} {before middle after : FileTree Content}
  {group : PartitionValues × List Row} {file : DataFile}

theorem partition (h : IsWritten place before after group file) : file.partition = group.1 := by
  obtain ⟨row, rows, -, hfile⟩ := h.described
  rw [hfile]
  rfl

/-- A file written after some growth has been written since before it. -/
theorem of_growth_left (h : IsWritten place middle after group file)
    (hgrowth : Growth place onTheWay before middle) : IsWritten place before after group file where
  described := h.described
  isDataPath := h.isDataPath
  housed := h.housed
  fresh := by
    by_contra hne
    obtain ⟨entry, hentry⟩ := Option.ne_none_iff_exists'.mp hne
    exact absurd (h.fresh.symm.trans (hgrowth.kept hentry)) nofun
  stored := h.stored

/-- A written file is still there after some growth. -/
theorem of_growth_right (h : IsWritten place before middle group file)
    (hgrowth : Growth place onTheWay middle after) : IsWritten place before after group file where
  described := h.described
  isDataPath := h.isDataPath
  housed := h.housed
  fresh := h.fresh
  stored := hgrowth.kept h.stored

end IsWritten

/-- The names of the directories for partition values are plain. -/
theorem isPlainName_of_mem_directory {values : PartitionValues} {name : String}
    (h : name ∈ Partition.directory values) : IsPlainName name := by
  obtain ⟨entry, -, rfl⟩ := List.mem_map.mp h
  exact isPlainName_directoryName entry.1 entry.2

/-- The directories for partition values, and a data file in them, lie outside of the log. -/
theorem isDataPath_directory_append (values : PartitionValues) (version serial : Nat) :
    IsDataPath (Partition.directory values ++ [dataName version serial]) := by
  have hlog : Log.directoryName.toList.head? = some '_' := rfl
  refine ⟨by simp, fun h => ?_⟩
  cases values with
  | nil =>
    rw [← Option.some.inj h, toList_dataName] at hlog
    cases hlog
  | cons entry values =>
    obtain ⟨c, cs, hlist, -, hc⟩ := exists_toList_directoryName entry.1 entry.2
    rw [← Option.some.inj h, hlist] at hlog
    exact hc (Option.some.inj hlog)

/-- Writing a group of rows is a growth, by a data file with these rows. -/
theorem writeFile_ensures (place : Location) (onTheWay : Location → Prop) (version : Nat)
    (activity : Activity) (values : PartitionValues) (row : Row) (rows : List Row)
    (world : World) :
    (writeFile place version activity values row rows).Ensures world
      (fun file after => world.Grows place onTheWay after ∧
        IsWritten place world.tree after.tree (values, row :: rows) file)
      fun _ after => world.Grows place onTheWay after := by
  have hplain : ∀ name ∈ Partition.directory values, IsPlainName name :=
    fun name hname => isPlainName_of_mem_directory hname
  have hgrowth : Growth place onTheWay world.tree
      (world.tree.makeDirectories place (Partition.directory values)).2 :=
    .makeDirectories world.tree hplain
  have hclosed : world.IsSound →
      (world.tree.makeDirectories place (Partition.directory values)).2.IsClosed :=
    fun hsound => hsound.closed.makeDirectories _ _
  unfold writeFile
  refine Run.ensures_bind (Run.ensures_tree (Run.ensures_bind (Run.ensures_ofOutcome ?_ ?_)))
  · intro directory hdirectory
    have hfind : world.IsSound → world.tree.find? place = some .directory →
        (world.tree.makeDirectories place (Partition.directory values)).2.find? directory =
          some .directory :=
      fun hsound => find?_of_makeDirectories hdirectory hsound.closed
    obtain rfl : directory = place ++ Partition.directory values := by
      rw [eq_follow_of_makeDirectories hdirectory]
      exact follow_eq_append (fun h => (hplain _ h).2.2.1 rfl) place
    refine Run.ensures_bind (Run.ensures_tree (Run.ensures_bind (Run.ensures_setTree
      (Run.ensures_pure ?_))))
    set middle := (world.tree.makeDirectories place (Partition.directory values)).2
    set name := freshName middle (place ++ Partition.directory values) version
    have hpath : IsDataPath (Partition.directory values ++ [name]) :=
      isDataPath_directory_append values version _
    have hnone : middle.find? (place ++ Partition.directory values ++ [name]) = none :=
      find?_freshName middle _ version
    have hclosed' : world.IsSound → world.tree.find? place = some .directory →
        (middle.put (place ++ Partition.directory values ++ [name])
          (.file (.rows (row :: rows)))).IsClosed :=
      fun hsound hplace => (hclosed hsound).put (hfind hsound hplace) (by rw [hnone]; exact nofun)
    rw [List.append_assoc] at hnone hclosed'
    have hput : Growth place onTheWay middle
        (middle.put (place ++ (Partition.directory values ++ [name]))
          (.file (.rows (row :: rows)))) :=
      .put middle hpath (isPlainName_dataName version _) hnone
    rw [List.append_assoc]
    refine ⟨.of_tree (hgrowth.trans hput) hclosed', IsWritten.of_growth_left ?_ hgrowth⟩
    have hfits : ∀ part ∈ Partition.directory values, fits part = true := fun part hpart =>
      fits_of_makeDirectories hdirectory hpart (hplain part hpart).2.2.1
    exact ⟨⟨row, rows, rfl, rfl⟩, hpath, ⟨name, rfl, hfits⟩, hnone,
      by simp [find?_put, DataFile.ofRows]⟩
  · intro fault _
    exact .of_tree hgrowth fun hsound _ => hclosed hsound

/-- Writing groups of rows is a growth, by one data file for each group. -/
theorem writeFiles_ensures (place : Location) (onTheWay : Location → Prop) (version : Nat)
    (activity : Activity) {groups : List (PartitionValues × List Row)}
    (hne : ∀ group ∈ groups, group.2 ≠ []) (world : World) :
    (writeFiles place version activity groups).Ensures world
      (fun files after => world.Grows place onTheWay after ∧
        List.Forall₂ (IsWritten place world.tree after.tree) groups files ∧
        (files.map DataFile.path).Nodup)
      fun _ after => world.Grows place onTheWay after := by
  induction groups generalizing world with
  | nil => exact Run.ensures_pure ⟨.refl world, .nil, List.nodup_nil⟩
  | cons group groups ih =>
    rw [List.forall_mem_cons] at hne
    obtain ⟨values, _ | ⟨row, rows⟩⟩ := group
    · exact absurd rfl hne.1
    rw [writeFiles]
    refine Run.ensures_bind ((writeFile_ensures place onTheWay version activity values row rows
      world).mono ?_ fun _ _ h => h)
    rintro file middle ⟨hgrows, hfile⟩
    refine Run.ensures_bind ((ih hne.2 middle).mono ?_ fun _ _ h => hgrows.trans h)
    rintro files after ⟨hgrows', hfiles, hnodup⟩
    refine Run.ensures_pure ⟨hgrows.trans hgrows', ?_, ?_⟩
    · exact .cons (hfile.of_growth_right hgrows'.tree)
        (hfiles.imp fun _ _ h => h.of_growth_left hgrows.tree)
    · -- the first file is there when the others are written, so they have other paths
      refine List.nodup_cons.mpr ⟨fun hmem => ?_, hnodup⟩
      obtain ⟨other, hother, hpath⟩ := List.mem_map.mp hmem
      obtain ⟨_, _, hwritten⟩ := exists_mem_of_forall₂_right hfiles hother
      have hfresh := hwritten.fresh
      rw [hpath, hfile.stored] at hfresh
      cases hfresh

/-- `after` is `before` with a commit for a version that had none. -/
structure Committed (place : Location) (version : Nat) (actions : List Action)
    (before after : FileTree Content) : Prop where
  version_lt : version < versionLimit
  fresh : before.find? (Log.commitPath place version) = none
  eq_put : after = before.put (Log.commitPath place version) (.file (.commit actions))

/-- A commit leaves all entries as they are. -/
theorem Committed.kept {place : Location} {version : Nat} {actions : List Action}
    {before after : FileTree Content} (h : Committed place version actions before after)
    {l : Location} {e : Entry Content} (hl : before.find? l = some e) : after.find? l = some e := by
  rw [h.eq_put, find?_put _ _ _ Log.commitPath_ne_nil, if_neg fun heq => ?_, hl]
  rw [heq, h.fresh] at hl
  cases hl

/-- A commit comes after a growth by the directory of the log. -/
theorem commit_ensures (place : Location) (onTheWay : Location → Prop) (version : Nat)
    (activity : Activity) (actions : List Action) (world : World) :
    (commit place version activity actions).Ensures world
      (fun _ after => ∃ middle, world.Grows place onTheWay middle ∧
        Committed place version actions middle.tree after.tree ∧
        after = { middle with tree := after.tree } ∧
        (world.IsSound → world.tree.find? place = some .directory → after.IsSound))
      fun _ after => world.Grows place onTheWay after := by
  have hgrowth : Growth place onTheWay world.tree
      (world.tree.makeDirectories place [Log.directoryName]).2 := by
    refine .makeDirectories world.tree fun name hname => ?_
    rw [List.mem_singleton.mp hname]
    exact isPlainName_of_cons rfl (by decide) (by decide)
  have hclosed : world.IsSound →
      (world.tree.makeDirectories place [Log.directoryName]).2.IsClosed :=
    fun hsound => hsound.closed.makeDirectories _ _
  have hgrows := World.Grows.of_tree hgrowth fun hsound _ => hclosed hsound
  unfold commit
  split_ifs with hlimit
  · exact Run.ensures_bind (Run.ensures_throw (.refl world))
  refine Run.ensures_bind (Run.ensures_tree (Run.ensures_bind (Run.ensures_ofOutcome ?_ ?_)))
  · intro directory hdirectory
    refine Run.ensures_bind (Run.ensures_tree ?_)
    split_ifs with hsome
    · exact Run.ensures_bind (Run.ensures_throw hgrows)
    · rw [Bool.not_eq_true, Option.isSome_eq_false_iff, Option.isNone_iff_eq_none] at hsome
      have hcommitted : Committed place version actions
          (world.tree.makeDirectories place [Log.directoryName]).2 _ :=
        ⟨Nat.lt_of_not_le hlimit, hsome, rfl⟩
      refine Run.ensures_setTree ⟨_, hgrows, hcommitted, rfl, fun hsound hplace => ⟨?_, ?_⟩⟩
      · have hlog := find?_of_makeDirectories hdirectory hsound.closed hplace
        rw [eq_follow_of_makeDirectories hdirectory, follow_eq_append (by decide)] at hlog
        exact (hclosed hsound).put hlog fun h => absurd (hcommitted.fresh.symm.trans h) nofun
      · exact hcommitted.kept (hgrowth.kept hsound.home)
  · intro fault _
    exact hgrows

end LogTable.Table
