import LogTable.Proofs.FileTree.Free
import LogTable.Proofs.Table.Effects

/-!
# Room for a version

Whether a version can be written depends on little of what stands at the place of a table: on the
files in the way of its directories, and on whether the place of its commit is taken (`HasRoom`).
What comes before a commit takes no room away (`LeavesRoom`).  Main statement:
`Table.append_ensures_canAppend`, by which an append succeeds exactly if there is room and no value
is lost, and leaves as much room as there was if it fails before its commit.
-/

namespace LogTable

open FileTree Predicate

namespace Table

variable {place : Location} {before middle after tree : FileTree Content}

/-! ### Ways -/

/-- The names lead from the place of a table to its log or to the data files of some values. -/
def IsWay (names : List String) : Prop :=
  names = [Log.directoryName] ∨ ∃ values, names = Partition.directory values

theorem isWay_log : IsWay [Log.directoryName] :=
  Or.inl rfl

theorem isWay_directory (values : PartitionValues) : IsWay (Partition.directory values) :=
  Or.inr ⟨values, rfl⟩

/-- The directory for a value of a column is not the one of the log. -/
theorem directoryName_ne_log (column : Column) (cell : Cell) :
    Partition.directoryName column cell ≠ Log.directoryName := by
  intro heq
  obtain ⟨c, cs, hlist, -, hc⟩ := exists_toList_directoryName column cell
  have hhead : Log.directoryName.toList.head? = some '_' := rfl
  rw [← heq, hlist] at hhead
  exact hc (Option.some.inj hhead)

/-- The directory for a value of a column has no name of a data file. -/
theorem directoryName_ne_dataName (column : Column) (cell : Cell) (version serial : Nat) :
    Partition.directoryName column cell ≠ dataName version serial := by
  intro heq
  have hhead : (Partition.directoryName column cell).toList.head? = some 'p' := by
    rw [heq, toList_dataName]
    rfl
  rw [Partition.directoryName, String.toList_append, String.toList_append] at hhead
  cases column <;> exact absurd (Option.some.inj hhead) (by decide)

/-- A way has plain names. -/
theorem IsWay.not_mem_up {names : List String} (h : IsWay names) : ".." ∉ names := by
  rcases h with rfl | ⟨values, rfl⟩
  · decide
  · intro hmem
    have hplain := isPlainName_of_mem_directory hmem
    exact hplain.2.2.1 rfl

/-- What lies on a way is a way. -/
theorem IsWay.of_prefix {names path : List String} (h : IsWay names) (hpath : path <+: names) :
    IsWay path := by
  rcases h with rfl | ⟨values, rfl⟩
  · rcases List.prefix_cons_iff.mp hpath with rfl | ⟨rest, rfl, hrest⟩
    · exact isWay_directory []
    · rw [List.prefix_nil.mp hrest]
      exact isWay_log
  · rw [List.prefix_iff_eq_take.mp hpath, Partition.directory, ← List.map_take]
    exact isWay_directory _

/-- No way leads into the log. -/
theorem not_isWay_log_append (name : String) : ¬ IsWay [Log.directoryName, name] := by
  rintro (heq | ⟨values, heq⟩)
  · cases heq
  · cases values with
    | nil => cases heq
    | cons value values => exact directoryName_ne_log _ _ (List.cons.inj heq).1.symm

/-- No way leads to a data file. -/
theorem not_isWay_dataName (values : PartitionValues) (version serial : Nat) :
    ¬ IsWay (Partition.directory values ++ [dataName version serial]) := by
  rintro (heq | ⟨values', heq⟩)
  · have hpath := isDataPath_directory_append values version serial
    rw [heq] at hpath
    exact hpath.2 rfl
  · have hmem : dataName version serial ∈ Partition.directory values' := by
      rw [← heq]
      exact List.mem_append_right _ (List.mem_singleton_self _)
    obtain ⟨value, -, hname⟩ := List.mem_map.mp hmem
    exact directoryName_ne_dataName _ _ _ _ hname

/-! ### Leaving room -/

/-- `after` has the directories of `before`, files bar the same ways, and the same commits have
their place taken. -/
structure LeavesRoom (place : Location) (before after : FileTree Content) : Prop where
  kept : ∀ l, before.find? l = some .directory → after.find? l = some .directory
  file_iff : ∀ path, IsWay path →
    ((∃ content, after.find? (place ++ path) = some (.file content)) ↔
      ∃ content, before.find? (place ++ path) = some (.file content))
  commit_iff : ∀ version < Log.digitsLimit,
    (after.find? (Log.commitPath place version) = none ↔
      before.find? (Log.commitPath place version) = none)

namespace LeavesRoom

protected theorem refl (tree : FileTree Content) : LeavesRoom place tree tree :=
  ⟨fun _ h => h, fun _ _ => Iff.rfl, fun _ _ => Iff.rfl⟩

protected theorem trans (h : LeavesRoom place before middle)
    (h' : LeavesRoom place middle after) : LeavesRoom place before after where
  kept l hl := h'.kept l (h.kept l hl)
  file_iff path hpath := (h'.file_iff path hpath).trans (h.file_iff path hpath)
  commit_iff version hversion := (h'.commit_iff version hversion).trans
    (h.commit_iff version hversion)

/-- Making the directories of a way leaves room. -/
theorem makeDirectories (tree : FileTree Content) {names : List String} (hway : IsWay names) :
    LeavesRoom place tree (tree.makeDirectories place names).2 := by
  have hadds := makeDirectories_addsDirectories tree place names
  have hcommit : ∀ version, ¬ Passes place names (Log.commitPath place version) := by
    intro version hpasses
    obtain ⟨path, hpath, heq⟩ := exists_prefix_of_passes hway.not_mem_up hpasses
    rw [Log.commitPath, Log.directory, List.append_assoc, List.append_cancel_left_eq] at heq
    exact not_isWay_log_append _ (heq ▸ hway.of_prefix hpath)
  constructor
  · intro l hl
    exact hadds.kept hl
  · intro path _
    constructor
    · rintro ⟨content, hafter⟩
      cases hbefore : tree.find? (place ++ path) with
      | none => cases (hadds.added hbefore hafter).1
      | some entry =>
        have hsame := (hadds.kept hbefore).symm.trans hafter
        exact ⟨content, hsame⟩
    · rintro ⟨content, hbefore⟩
      exact ⟨content, hadds.kept hbefore⟩
  · intro version _
    rw [hadds.find?_eq (hcommit version)]

/-- Putting a file off the ways, in no place of a directory or a commit, leaves room. -/
theorem put {path : Location} {content : Content} (hway : ¬ IsWay path)
    (hnot : tree.isDirectory (place ++ path) = false)
    (hcommit : ∀ version < Log.digitsLimit, Log.commitPath place version ≠ place ++ path) :
    LeavesRoom place tree (tree.put (place ++ path) (.file content)) := by
  have hne : place ++ path ≠ [] := by
    intro hnil
    obtain ⟨-, rfl⟩ := List.append_eq_nil_iff.mp hnil
    exact hway (isWay_directory [])
  constructor
  · intro l hl
    exact find?_put_of_directory hnot hl
  · intro path' hpath'
    have hother : place ++ path' ≠ place ++ path := by
      intro heq
      rw [List.append_cancel_left_eq] at heq
      exact hway (heq ▸ hpath')
    rw [find?_put _ _ _ hne, if_neg hother]
  · intro version hversion
    rw [find?_put _ _ _ hne, if_neg (hcommit version hversion)]

/-- A way is as free as it was. -/
theorem isFree_iff (h : LeavesRoom place before after) {names : List String} (hway : IsWay names) :
    after.IsFree place names ↔ before.IsFree place names := by
  constructor
  · intro hfree
    refine hfree.of_file fun path hpath content hcontent => ?_
    exact (h.file_iff path (hway.of_prefix hpath)).mpr ⟨content, hcontent⟩
  · intro hfree
    refine hfree.of_file fun path hpath content hcontent => ?_
    exact (h.file_iff path (hway.of_prefix hpath)).mp ⟨content, hcontent⟩

end LeavesRoom

/-- The place of the commit of a version can be written to. -/
structure HasCommitRoom (tree : FileTree Content) (place : Location) (version : Nat) : Prop where
  version_lt : version < versionLimit
  isFree : tree.IsFree place [Log.directoryName]
  find?_commit : tree.find? (Log.commitPath place version) = none

/-- There is room for a version with data files for the given groups. -/
structure HasRoom (tree : FileTree Content) (place : Location) (version : Nat)
    (groups : List (PartitionValues × List Row)) : Prop where
  isFree : ∀ group ∈ groups, tree.IsFree place (Partition.directory group.1)
  commit : HasCommitRoom tree place version

theorem LeavesRoom.hasCommitRoom_iff (h : LeavesRoom place before after) {version : Nat} :
    HasCommitRoom after place version ↔ HasCommitRoom before place version := by
  have hfree := h.isFree_iff isWay_log
  have hlt : version < versionLimit → version < Log.digitsLimit := fun h => h.trans (by decide)
  constructor
  · intro hroom
    have hnone := (h.commit_iff version (hlt hroom.version_lt)).mp hroom.find?_commit
    exact ⟨hroom.version_lt, hfree.mp hroom.isFree, hnone⟩
  · intro hroom
    have hnone := (h.commit_iff version (hlt hroom.version_lt)).mpr hroom.find?_commit
    exact ⟨hroom.version_lt, hfree.mpr hroom.isFree, hnone⟩

theorem LeavesRoom.hasRoom (h : LeavesRoom place before after) {version : Nat}
    {groups : List (PartitionValues × List Row)} (hroom : HasRoom before place version groups) :
    HasRoom after place version groups where
  isFree group hgroup := (h.isFree_iff (isWay_directory group.1)).mpr (hroom.isFree group hgroup)
  commit := h.hasCommitRoom_iff.mpr hroom.commit

/-! ### Writing a version -/

/-- A data file is written exactly if the way to it is free. -/
theorem writeFile_ensures_isFree {world : World}
    (hplace : world.tree.find? place = some .directory) (version : Nat) (activity : Activity)
    (values : PartitionValues) (row : Row) (rows : List Row) :
    (writeFile place version activity values row rows).Ensures world
      (fun file after => world.tree.IsFree place (Partition.directory values) ∧
        file.partition = values ∧ LeavesRoom place world.tree after.tree)
      fun _ after => ¬ world.tree.IsFree place (Partition.directory values) ∧
        LeavesRoom place world.tree after.tree := by
  have hway := isWay_directory values
  have hmade := exists_makeDirectories_eq_ok_iff hplace hway.not_mem_up
  have hroom : LeavesRoom place world.tree
      (world.tree.makeDirectories place (Partition.directory values)).2 := .makeDirectories _ hway
  unfold writeFile
  refine Run.ensures_bind (Run.ensures_tree (Run.ensures_bind (Run.ensures_ofOutcome ?_ ?_)))
  · intro directory hdirectory
    have hlocation : directory = place ++ Partition.directory values := by
      rw [eq_follow_of_makeDirectories hdirectory, follow_eq_append hway.not_mem_up]
    subst hlocation
    refine Run.ensures_bind (Run.ensures_tree (Run.ensures_bind (Run.ensures_setTree
      (Run.ensures_pure ⟨hmade.mp ⟨_, hdirectory⟩, rfl, hroom.trans ?_⟩))))
    set middle := (world.tree.makeDirectories place (Partition.directory values)).2
    have hnone : middle.find? (place ++ Partition.directory values ++
        [freshName middle (place ++ Partition.directory values) version]) = none :=
      find?_freshName middle _ version
    rw [List.append_assoc] at hnone ⊢
    have hpath : IsDataPath (Partition.directory values ++
        [freshName middle (place ++ Partition.directory values) version]) :=
      isDataPath_directory_append values version _
    refine .put (not_isWay_dataName values version _) ?_ fun _ _ => hpath.append_ne_log.symm
    rw [isDirectory, hnone]
    rfl
  · intro fault hfault
    refine ⟨fun hfree => ?_, hroom⟩
    obtain ⟨l, hl⟩ := hmade.mpr hfree
    cases hl.symm.trans hfault

/-- Data files are written exactly if the ways to all of them are free. -/
theorem writeFiles_ensures_isFree {world : World}
    (hplace : world.tree.find? place = some .directory) (version : Nat) (activity : Activity)
    {groups : List (PartitionValues × List Row)} (hne : ∀ group ∈ groups, group.2 ≠ []) :
    (writeFiles place version activity groups).Ensures world
      (fun files after =>
        (∀ group ∈ groups, world.tree.IsFree place (Partition.directory group.1)) ∧
        files.map DataFile.partition = groups.map Prod.fst ∧
        LeavesRoom place world.tree after.tree)
      fun _ after =>
        ¬ (∀ group ∈ groups, world.tree.IsFree place (Partition.directory group.1)) ∧
        LeavesRoom place world.tree after.tree := by
  induction groups generalizing world with
  | nil => exact Run.ensures_pure ⟨nofun, rfl, .refl world.tree⟩
  | cons group groups ih =>
    rw [List.forall_mem_cons] at hne
    obtain ⟨values, _ | ⟨row, rows⟩⟩ := group
    · exact absurd rfl hne.1
    rw [writeFiles]
    simp only [List.forall_mem_cons]
    refine Run.ensures_bind
      ((writeFile_ensures_isFree hplace version activity values row rows).mono ?_ ?_)
    swap
    · rintro _ after ⟨hbarred, hroom⟩
      exact ⟨fun hfree => hbarred hfree.1, hroom⟩
    rintro file middle ⟨hfree, hpartition, hroom⟩
    have hfree_iff : (∀ group ∈ groups, middle.tree.IsFree place (Partition.directory group.1)) ↔
        ∀ group ∈ groups, world.tree.IsFree place (Partition.directory group.1) :=
      forall₂_congr fun group _ => hroom.isFree_iff (isWay_directory group.1)
    refine Run.ensures_bind ((ih (hroom.kept _ hplace) hne.2).mono ?_ ?_)
    · rintro files after ⟨hfrees, hpartitions, hroom'⟩
      refine Run.ensures_pure ⟨⟨hfree, hfree_iff.mp hfrees⟩, ?_, hroom.trans hroom'⟩
      rw [List.map_cons, List.map_cons, hpartition, hpartitions]
    · rintro _ after ⟨hbarred, hroom'⟩
      exact ⟨fun hfrees => hbarred (hfree_iff.mpr hfrees.2), hroom.trans hroom'⟩

/-- A commit is written exactly if there is room for it. -/
theorem commit_ensures_hasCommitRoom {world : World}
    (hplace : world.tree.find? place = some .directory) (version : Nat) (activity : Activity)
    (actions : List Action) :
    (commit place version activity actions).Ensures world
      (fun _ after => HasCommitRoom world.tree place version ∧
        after.tree.find? (Log.commitPath place version) = some (.file (.commit actions)))
      fun _ after => ¬ HasCommitRoom world.tree place version ∧
        LeavesRoom place world.tree after.tree := by
  have hmade := exists_makeDirectories_eq_ok_iff hplace isWay_log.not_mem_up
  have hroom : LeavesRoom place world.tree
      (world.tree.makeDirectories place [Log.directoryName]).2 := .makeDirectories _ isWay_log
  unfold commit
  split_ifs with hlimit
  · have hnot : ¬ HasCommitRoom world.tree place version := fun h =>
      absurd h.version_lt (Nat.not_lt.mpr hlimit)
    exact Run.ensures_bind (Run.ensures_throw ⟨hnot, .refl world.tree⟩)
  have hlt : version < versionLimit := Nat.lt_of_not_le hlimit
  have hcommit := hroom.commit_iff version (hlt.trans (by decide))
  refine Run.ensures_bind (Run.ensures_tree (Run.ensures_bind (Run.ensures_ofOutcome ?_ ?_)))
  · intro directory hdirectory
    refine Run.ensures_bind (Run.ensures_tree ?_)
    split_ifs with hsome
    · refine Run.ensures_bind (Run.ensures_throw ⟨fun h => ?_, hroom⟩)
      have hnone := hcommit.mpr h.find?_commit
      rw [hnone] at hsome
      exact absurd hsome nofun
    · rw [Bool.not_eq_true, Option.isSome_eq_false_iff, Option.isNone_iff_eq_none] at hsome
      refine Run.ensures_setTree ⟨⟨hlt, hmade.mp ⟨_, hdirectory⟩, hcommit.mp hsome⟩, ?_⟩
      rw [find?_put _ _ _ Log.commitPath_ne_nil, if_pos rfl]
  · intro fault hfault
    refine ⟨fun h => ?_, hroom⟩
    obtain ⟨l, hl⟩ := hmade.mpr h.isFree
    cases hl.symm.trans hfault

/-! ### Appending and deleting -/

/-- The rows have no empty text in the columns, which would be stored as a missing value. -/
def IsStorable (columns : List Column) (rows : List Row) : Prop :=
  ∀ row ∈ rows, ∀ column ∈ columns, row.cell column ≠ .text ""

/-- The data files of rows have lost no value exactly if the rows are storable. -/
theorem any_hasLostValue_eq_false_iff {columns : List Column} {rows : List Row}
    {files : List DataFile}
    (h : files.map DataFile.partition =
      (Partition.groups columns.eraseDups rows).map Prod.fst) :
    files.any Log.hasLostValue = false ↔ IsStorable columns rows := by
  have hvalues : (Partition.groups columns.eraseDups rows).map Prod.fst =
      (rows.map (Partition.valuesOf columns.eraseDups)).eraseDups := by
    simp [Partition.groups, List.map_map, Function.comp_def]
  have hlost : files.any Log.hasLostValue = true ↔
      ∃ row ∈ rows, ∃ column ∈ columns, row.cell column = .text "" := by
    have hfiles : files.any Log.hasLostValue =
        (files.map DataFile.partition).any fun values => values.any fun entry =>
          entry.2 = .text "" := by
      rw [List.any_map]
      rfl
    rw [hfiles, h, hvalues]
    simp [Partition.valuesOf]
  rw [← Bool.not_eq_true, hlost, IsStorable]
  push Not
  rfl

/-- What an append is about to write is settled by the log. -/
theorem Appends.unique {partitionBy : List String} {reading : LogReading} {version version' : Nat}
    {actions actions' : List Action} {columns columns' : List Column}
    (h : Appends partitionBy reading version actions columns)
    (h' : Appends partitionBy reading version' actions' columns') :
    version' = version ∧ actions' = actions ∧ columns' = columns := by
  cases h with
  | first hcolumns =>
    cases h' with
    | first hcolumns' =>
      obtain rfl := Option.some.inj (hcolumns.symm.trans hcolumns')
      exact ⟨rfl, rfl, rfl⟩
  | next =>
    cases h' with
    | next => exact ⟨rfl, rfl, rfl⟩

/-- The rows can be appended as a version of the table at a place. -/
def CanAppend (tree : FileTree Content) (place : Location) (rows : List Row)
    (partitionBy : List String) (version : Nat) : Prop :=
  ∃ actions columns, Appends partitionBy (Log.read tree place) version actions columns ∧
    HasRoom tree place version (Partition.groups columns.eraseDups rows) ∧
    IsStorable columns rows

/-- An append has one version at most. -/
theorem CanAppend.unique {rows : List Row} {partitionBy : List String} {version version' : Nat}
    (h : CanAppend tree place rows partitionBy version)
    (h' : CanAppend tree place rows partitionBy version') : version' = version := by
  obtain ⟨_, _, happends, -⟩ := h
  obtain ⟨_, _, happends', -⟩ := h'
  exact (happends.unique happends').1

/-- What could be appended still can be, if the log says the same and room is left. -/
theorem CanAppend.of_leavesRoom {rows : List Row} {partitionBy : List String} {version : Nat}
    (h : CanAppend before place rows partitionBy version)
    (hread : Log.read after place = Log.read before place)
    (hroom : LeavesRoom place before after) : CanAppend after place rows partitionBy version := by
  obtain ⟨actions, columns, happends, hhasRoom, hstorable⟩ := h
  rw [← hread] at happends
  exact ⟨actions, columns, happends, hroom.hasRoom hhasRoom, hstorable⟩

/-- A version is appended exactly if there is room for it and no value is lost.  If it fails, it
leaves room or has written its commit. -/
theorem appendVersion_ensures_hasRoom {world : World}
    (hplace : world.tree.find? place = some .directory) (version : Nat) (actions : List Action)
    (columns : List Column) (rows : List Row) :
    (appendVersion place version actions columns rows).Ensures world
      (fun _ _ => HasRoom world.tree place version (Partition.groups columns.eraseDups rows) ∧
        IsStorable columns rows)
      fun _ after =>
        ¬ (HasRoom world.tree place version (Partition.groups columns.eraseDups rows) ∧
          IsStorable columns rows) ∧
        (LeavesRoom place world.tree after.tree ∨
          Log.commits after.tree place ≠ Log.commits world.tree place) := by
  unfold appendVersion
  refine Run.ensures_bind ((writeFiles_ensures_isFree hplace version .appending
    (fun _ => Partition.ne_nil_of_mem_groups)).mono ?_ ?_)
  swap
  · rintro _ after ⟨hbarred, hroom⟩
    exact ⟨fun h => hbarred h.1.isFree, Or.inl hroom⟩
  rintro files middle ⟨hfree, hpartitions, hroom⟩
  have hstorable := any_hasLostValue_eq_false_iff hpartitions
  refine Run.ensures_bind ((commit_ensures_hasCommitRoom (hroom.kept _ hplace) version .appending
    _).mono ?_ ?_)
  swap
  · rintro _ after ⟨hnone, hroom'⟩
    exact ⟨fun h => hnone (hroom.hasCommitRoom_iff.mpr h.1.commit), Or.inl (hroom.trans hroom')⟩
  rintro _ after ⟨hcommitRoom, hcommit⟩
  have hcommitRoom' := hroom.hasCommitRoom_iff.mp hcommitRoom
  split_ifs with hlost
  · have hnot : ¬ IsStorable columns rows := fun h => by simp [hstorable.mpr h] at hlost
    have hlt : version < Log.digitsLimit := hcommitRoom'.version_lt.trans (by decide)
    have hcommits := Log.commits_ne hlt hcommitRoom'.find?_commit hcommit
    exact Run.ensures_throw ⟨fun h => hnot h.2, Or.inr hcommits⟩
  · rw [Bool.not_eq_true] at hlost
    exact Run.ensures_pure ⟨⟨hfree, hcommitRoom'⟩, hstorable.mp hlost⟩

/-- From where the place has been opened, an append succeeds exactly if the rows can be appended. 
If it fails, it leaves room or has written its commit. -/
theorem append_ensures_canAppend {table : Table} {world opened : World}
    (hopened : table.placeForWriting.start world = (.ok place, opened))
    (hplace : opened.tree.find? place = some .directory) (rows : List Row)
    (partitionBy : List String) :
    (table.append rows partitionBy).Ensures world
      (fun version _ => CanAppend opened.tree place rows partitionBy version)
      fun _ after => (∀ version, ¬ CanAppend opened.tree place rows partitionBy version) ∧
        (LeavesRoom place opened.tree after.tree ∨
          Log.commits after.tree place ≠ Log.commits opened.tree place) := by
  unfold append
  refine Run.ensures_bind (Run.ensures_of_start hopened (Run.ensures_bind (Run.ensures_tree ?_)))
  have hfinish : ∀ {version : Nat} {after : World},
      CanAppend opened.tree place rows partitionBy version →
      (do
        Run.record (.batchAppended table.uri version rows.length)
        return version : Run Nat).Ensures after
        (fun version _ => CanAppend opened.tree place rows partitionBy version)
        fun _ after => (∀ version, ¬ CanAppend opened.tree place rows partitionBy version) ∧
          (LeavesRoom place opened.tree after.tree ∨
            Log.commits after.tree place ≠ Log.commits opened.tree place) :=
    fun h => Run.ensures_bind (Run.ensures_record (Run.ensures_pure h))
  have hwrite : ∀ {version : Nat} {actions : List Action} {columns : List Column},
      Appends partitionBy (Log.read opened.tree place) version actions columns →
      (appendVersion place version actions columns rows).Ensures opened
        (fun _ _ => CanAppend opened.tree place rows partitionBy version)
        fun _ after => (∀ version, ¬ CanAppend opened.tree place rows partitionBy version) ∧
          (LeavesRoom place opened.tree after.tree ∨
            Log.commits after.tree place ≠ Log.commits opened.tree place) := by
    intro version actions columns happends
    refine (appendVersion_ensures_hasRoom hplace version actions columns rows).mono ?_ ?_
    · exact fun _ _ hroom => ⟨actions, columns, happends, hroom⟩
    · rintro _ after ⟨hnot, hafter⟩
      refine ⟨?_, hafter⟩
      rintro version' ⟨actions', columns', happends', hroom⟩
      obtain ⟨rfl, rfl, rfl⟩ := happends.unique happends'
      exact hnot hroom
  have hrefused : (∀ version actions columns,
        ¬ Appends partitionBy (Log.read opened.tree place) version actions columns) →
      ∀ version, ¬ CanAppend opened.tree place rows partitionBy version := by
    rintro hnone version ⟨actions, columns, happends, -⟩
    exact hnone version actions columns happends
  cases hread : Log.read opened.tree place with
  | damaged =>
    refine Run.ensures_bind (Run.ensures_throw ⟨hrefused ?_, Or.inl (.refl _)⟩)
    rw [hread]
    exact nofun
  | absent =>
    cases hcolumns : partitionColumns? partitionBy with
    | none =>
      refine Run.ensures_bind (Run.ensures_throw ⟨hrefused ?_, Or.inl (.refl _)⟩)
      rintro version actions columns happends
      rw [hread] at happends
      cases happends with
      | first h => exact absurd (hcolumns.symm.trans h) nofun
    | some columns =>
      refine Run.ensures_bind ((hwrite (hread ▸ .first hcolumns)).mono ?_ fun _ _ h => h)
      exact fun _ _ h => Run.ensures_bind (Run.ensures_pure (hfinish h))
  | table snapshot =>
    simp only
    split_ifs with hadmits
    · refine Run.ensures_bind ((hwrite (hread ▸ .next hadmits)).mono ?_ fun _ _ h => h)
      exact fun _ _ h => Run.ensures_bind (Run.ensures_pure (hfinish h))
    · refine Run.ensures_bind (Run.ensures_throw ⟨hrefused ?_, Or.inl (.refl _)⟩)
      rintro version actions columns happends
      rw [hread] at happends
      cases happends with
      | next h => exact hadmits h

/-- A deletion that fails leaves room. -/
theorem carryOut_ensures_leavesRoom {world : World}
    (hplace : world.tree.find? place = some .directory) (snapshot : Snapshot)
    (deletion : Deletion) :
    (carryOut place snapshot deletion).Ensures world (fun _ _ => True)
      fun _ after => LeavesRoom place world.tree after.tree := by
  unfold carryOut
  split_ifs
  · exact Run.ensures_pure trivial
  refine Run.ensures_bind ((writeFiles_ensures_isFree hplace _ .deleting
    (fun _ => Partition.ne_nil_of_mem_groups)).mono ?_ fun _ _ h => h.2)
  rintro files middle ⟨-, -, hroom⟩
  refine Run.ensures_bind ((commit_ensures_hasCommitRoom (hroom.kept _ hplace) _ .deleting
    _).mono ?_ fun _ _ h => hroom.trans h.2)
  exact fun _ _ _ => Run.ensures_pure trivial

theorem delete_ensures_leavesRoom [Engine] {table : Table} {world opened : World}
    (hopened : table.placeForWriting.start world = (.ok place, opened))
    (hplace : opened.tree.find? place = some .directory) (predicate : String) :
    (table.delete predicate).Ensures world (fun _ _ => True)
      fun _ after => LeavesRoom place opened.tree after.tree := by
  unfold delete
  refine Run.ensures_bind (Run.ensures_of_start hopened (Run.ensures_bind (Run.ensures_tree ?_)))
  have hrefused : LeavesRoom place opened.tree opened.tree := .refl _
  cases Log.read opened.tree place with
  | damaged => exact Run.ensures_bind (Run.ensures_throw hrefused)
  | absent => exact Run.ensures_bind (Run.ensures_throw hrefused)
  | table snapshot =>
    refine Run.ensures_bind (Run.ensures_pure ?_)
    cases Engine.read? predicate with
    | none => exact Run.ensures_bind (Run.ensures_throw hrefused)
    | some condition =>
      simp only
      cases Deletion.of? opened.tree place snapshot condition with
      | none => exact Run.ensures_bind (Run.ensures_throw hrefused)
      | some deletion =>
        refine Run.ensures_bind (Run.ensures_pure (Run.ensures_bind
          ((carryOut_ensures_leavesRoom hplace snapshot deletion).mono ?_ fun _ _ h => h)))
        exact fun _ _ _ => Run.ensures_bind (Run.ensures_record (Run.ensures_pure trivial))

end Table

end LogTable
