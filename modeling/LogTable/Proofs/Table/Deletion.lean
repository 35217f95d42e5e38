import LogTable.Proofs.Table.Stored

/-!
# Exact deletions

A deletion of a stored snapshot removes exactly the files that hold a row on which the predicate is
true, and keeps exactly their other rows (`Deletion.isExact`), whether it looks at partition values,
at the bounds of the files or at the rows.
-/

namespace LogTable

open Predicate

namespace Deletion

variable [Engine] {tree : FileTree Content} {place : Location} {snapshot : Snapshot}
  {condition : Engine.Condition} {deletion : Deletion}

/-- The deletion removes the files with a row on which the predicate is true, and keeps the other
rows of these files. -/
structure IsExact (tree : FileTree Content) (place : Location) (snapshot : Snapshot)
    (condition : Engine.Condition) (deletion : Deletion) : Prop where
  removed : deletion.removed =
    snapshot.files.filter fun file => (file.rows tree place).any (Engine.isTrueOf condition)
  kept : deletion.kept =
    deletion.removed.flatMap fun file =>
      (file.rows tree place).filter fun row => !Engine.isTrueOf condition row

/-- The partition values of a stored file say of a predicate on partition columns what each of its
rows says. -/
theorem isTrueAt_fileValues (hstored : snapshot.IsStored tree place) {file : DataFile}
    (hfile : file ∈ snapshot.files) {row : Row} (hrow : row ∈ file.rows tree place)
    (hon : isOnPartitions snapshot condition = true) :
    Engine.isTrueAt condition (fileValues file) = Engine.isTrueOf condition row := by
  obtain ⟨first, rows, hfind, -, hvalues⟩ := hstored.stored file hfile
  rw [DataFile.rows_of_find? hfind] at hrow
  refine Engine.isTrueAt_congr fun column hcolumn => ?_
  have hmem : column ∈ snapshot.partitionBy := by
    simpa using List.all_eq_true.mp hon column hcolumn
  rw [fileValues, ← hvalues row hrow,
    Partition.lookup_valuesOf (List.mem_eraseDups.mpr hmem) row]
  rfl

/-- So they say whether the file has a row on which the predicate is true. -/
theorem isTrueAt_fileValues_eq_any (hstored : snapshot.IsStored tree place) {file : DataFile}
    (hfile : file ∈ snapshot.files) (hon : isOnPartitions snapshot condition = true) :
    Engine.isTrueAt condition (fileValues file) =
      (file.rows tree place).any (Engine.isTrueOf condition) := by
  have hall : ∀ row ∈ file.rows tree place,
      Engine.isTrueAt condition (fileValues file) = Engine.isTrueOf condition row :=
    fun row hrow => isTrueAt_fileValues hstored hfile hrow hon
  obtain ⟨row, rows, hfind, -⟩ := hstored.stored file hfile
  rw [DataFile.rows_of_find? hfind] at hall ⊢
  rw [Bool.eq_iff_iff, List.any_eq_true]
  constructor
  · intro htrue
    exact ⟨row, List.mem_cons_self, hall row List.mem_cons_self ▸ htrue⟩
  · rintro ⟨r, hr, htrue⟩
    rw [hall r hr, htrue]

/-- A deletion by partition values is exact. -/
theorem isExact_of_ofPartitions? (hstored : snapshot.IsStored tree place)
    (hon : isOnPartitions snapshot condition = true)
    (h : ofPartitions? snapshot condition = some deletion) :
    IsExact tree place snapshot condition deletion := by
  unfold ofPartitions? at h
  split_ifs at h
  obtain ⟨verdicts, hverdicts, rfl⟩ := Option.map_eq_some_iff.mp h
  have hremoved : ((snapshot.files.zip verdicts).filter Prod.snd).map Prod.fst =
      snapshot.files.filter fun file =>
        (file.rows tree place).any (Engine.isTrueOf condition) := by
    rw [Engine.eq_map_of_verdicts? hverdicts, List.map_map]
    refine (map_fst_filter_zip_map _ id _).trans (List.filter_congr fun file hfile => ?_)
    exact isTrueAt_fileValues_eq_any hstored hfile hon
  refine ⟨hremoved, ?_⟩
  simp only [hremoved]
  refine (List.flatMap_eq_nil_iff.mpr fun file hfile => ?_).symm
  -- if the predicate is true of one row of a file, it is true of all
  obtain ⟨hmem, hhit⟩ := List.mem_filter.mp hfile
  refine List.filter_eq_nil_iff.mpr fun row hrow => ?_
  rw [← isTrueAt_fileValues hstored hmem hrow hon,
    isTrueAt_fileValues_eq_any hstored hmem hon, hhit]
  exact Bool.false_ne_true

/-- Either each row of a stored file stands with whether the predicate is true of it, or there are
no verdicts and it is true of none. -/
theorem verdicts_eq_or (hstored : snapshot.IsStored tree place) {file : DataFile}
    (hfile : file ∈ snapshot.files) {verdicts : List (Row × Bool)}
    (h : verdicts? tree place condition file = some verdicts) :
    verdicts = (file.rows tree place).zip
        ((file.rows tree place).map (Engine.isTrueOf condition)) ∨
      verdicts = [] ∧ ∀ row ∈ file.rows tree place, Engine.isTrueOf condition row = false := by
  obtain ⟨row, rows, hfind, hdescribed, -⟩ := hstored.stored file hfile
  rw [DataFile.rows_of_find? hfind]
  unfold verdicts? at h
  split_ifs at h with hexcluded
  · refine .inr ⟨(Option.some.inj h).symm, fun r hr => ?_⟩
    rw [hdescribed] at hexcluded
    exact Engine.isTrueAt_eq_false_of_isExcluded hexcluded (DataFile.isBetween_ofRows _ _ hr)
  · rw [DataFile.rows?_of_find? hfind, Option.bind_some] at h
    obtain ⟨answers, hanswers, rfl⟩ := Option.map_eq_some_iff.mp h
    rw [Engine.eq_map_of_verdicts? hanswers, List.map_map]
    exact .inl rfl

/-- The verdicts on the rows of a stored file hold on the rows that the predicate is true of. -/
theorem map_filter_snd_eq (hstored : snapshot.IsStored tree place) {file : DataFile}
    (hfile : file ∈ snapshot.files) {verdicts : List (Row × Bool)}
    (h : verdicts? tree place condition file = some verdicts) :
    (verdicts.filter Prod.snd).map Prod.fst =
      (file.rows tree place).filter (Engine.isTrueOf condition) := by
  rcases verdicts_eq_or hstored hfile h with rfl | ⟨rfl, hnone⟩
  · exact map_fst_filter_zip_map _ id _
  · refine (List.filter_eq_nil_iff.mpr fun row hrow => ?_).symm
    rw [hnone row hrow]
    exact Bool.false_ne_true

/-- The verdicts on the rows of a stored file tell whether there is one that the predicate is true
of. -/
theorem any_snd_eq (hstored : snapshot.IsStored tree place) {file : DataFile}
    (hfile : file ∈ snapshot.files) {verdicts : List (Row × Bool)}
    (h : verdicts? tree place condition file = some verdicts) :
    verdicts.any Prod.snd = (file.rows tree place).any (Engine.isTrueOf condition) := by
  have heq := map_filter_snd_eq hstored hfile h
  have hnone : verdicts.any Prod.snd = false ↔
      (file.rows tree place).any (Engine.isTrueOf condition) = false := by
    rw [List.any_eq_false, List.any_eq_false, ← List.filter_eq_nil_iff,
      ← List.filter_eq_nil_iff, ← heq, List.map_eq_nil_iff]
  exact Bool.eq_iff_iff.mpr (by simpa using not_congr hnone)

/-- If the predicate is true of a row of a stored file, the verdicts hold on no other row. -/
theorem map_filter_not_snd_eq (hstored : snapshot.IsStored tree place) {file : DataFile}
    (hfile : file ∈ snapshot.files) {verdicts : List (Row × Bool)}
    (h : verdicts? tree place condition file = some verdicts)
    (hhit : verdicts.any Prod.snd = true) :
    (verdicts.filter fun verdict => !verdict.2).map Prod.fst =
      (file.rows tree place).filter fun row => !Engine.isTrueOf condition row := by
  rcases verdicts_eq_or hstored hfile h with rfl | ⟨rfl, -⟩
  · exact map_fst_filter_zip_map _ (!·) _
  · exact absurd hhit Bool.false_ne_true

/-- A deletion by rows is exact. -/
theorem isExact_of_ofRows? (hstored : snapshot.IsStored tree place)
    (h : ofRows? tree place snapshot condition = some deletion) :
    IsExact tree place snapshot condition deletion := by
  unfold ofRows? at h
  split_ifs at h
  obtain ⟨read, hread, rfl⟩ := Option.map_eq_some_iff.mp h
  rw [mapM_eq_some_iff] at hread
  have hentry : ∀ file ∈ snapshot.files, ∀ entry,
      ((verdicts? tree place condition file).map fun verdicts => (file, verdicts)) =
        some entry →
      entry.1 = file ∧
        entry.2.any Prod.snd = (file.rows tree place).any (Engine.isTrueOf condition) := by
    intro file hfile entry hentry
    obtain ⟨verdicts, hverdicts, rfl⟩ := Option.map_eq_some_iff.mp hentry
    exact ⟨rfl, any_snd_eq hstored hfile hverdicts⟩
  have hremoved : (read.filter fun entry => entry.2.any Prod.snd).map Prod.fst =
      snapshot.files.filter fun file =>
        (file.rows tree place).any (Engine.isTrueOf condition) :=
    map_filter_of_forall₂ (p := fun verdicts : List (Row × Bool) => verdicts.any Prod.snd)
      hread hentry
  refine ⟨hremoved, ?_⟩
  simp only [List.flatMap_map, List.filter_flatMap, List.map_flatMap]
  refine List.flatMap_congr fun entry hmem => ?_
  obtain ⟨hmem, hhit⟩ := List.mem_filter.mp hmem
  obtain ⟨file, hfile, heq⟩ := exists_mem_of_forall₂_right hread hmem
  obtain ⟨verdicts, hverdicts, rfl⟩ := Option.map_eq_some_iff.mp heq
  exact map_filter_not_snd_eq hstored hfile hverdicts hhit

/-- Every deletion of a stored snapshot is exact. -/
theorem isExact (hstored : snapshot.IsStored tree place)
    (h : of? tree place snapshot condition = some deletion) :
    IsExact tree place snapshot condition deletion := by
  unfold of? at h
  split_ifs at h with he
  · exact isExact_of_ofPartitions? hstored he h
  · exact isExact_of_ofRows? hstored h

/-- The rows of which the predicate is true are those of the files that an exact deletion
removes. -/
theorem IsExact.flatMap_removed (h : IsExact tree place snapshot condition deletion) :
    (deletion.removed.flatMap fun file =>
        (file.rows tree place).filter (Engine.isTrueOf condition)) =
      (snapshot.rows tree place).filter (Engine.isTrueOf condition) := by
  rw [h.removed, Snapshot.rows, List.filter_flatMap]
  refine flatMap_filter_of_forall fun file _ hnone => ?_
  exact List.filter_eq_nil_iff.mpr fun row hrow => List.any_eq_false.mp hnone row hrow

/-- The number that a deletion gives: a deletion by rows counts the rows of which the predicate is
true, and a deletion by partition values does not count. -/
theorem rowsDeleted_eq (hstored : snapshot.IsStored tree place)
    (h : of? tree place snapshot condition = some deletion) :
    deletion.rowsDeleted =
      if isOnPartitions snapshot condition then 0
      else (snapshot.rows tree place).countP (Engine.isTrueOf condition) := by
  have hexact := isExact hstored h
  unfold of? at h
  split_ifs at h ⊢ with hon
  · unfold ofPartitions? at h
    split_ifs at h
    obtain ⟨verdicts, -, rfl⟩ := Option.map_eq_some_iff.mp h
    rfl
  · unfold ofRows? at h
    split_ifs at h
    obtain ⟨read, hread, rfl⟩ := Option.map_eq_some_iff.mp h
    rw [mapM_eq_some_iff] at hread
    rw [List.countP_eq_length_filter, ← hexact.flatMap_removed]
    simp only [List.flatMap_map, List.filter_flatMap, List.length_flatMap]
    congr 1
    refine List.map_congr_left fun entry hmem => ?_
    obtain ⟨file, hfile, heq⟩ :=
      exists_mem_of_forall₂_right hread (List.mem_of_mem_filter hmem)
    obtain ⟨verdicts, hverdicts, rfl⟩ := Option.map_eq_some_iff.mp heq
    rw [← map_filter_snd_eq hstored hfile hverdicts, List.length_map]

/-- A deletion is exact for all trees that agree on the rows of the live data files. -/
theorem IsExact.of_rows_eq {before after : FileTree Content}
    (h : IsExact after place snapshot condition deletion)
    (hrows : ∀ file ∈ snapshot.files, file.rows after place = file.rows before place) :
    IsExact before place snapshot condition deletion := by
  have hremoved : deletion.removed = snapshot.files.filter fun file =>
      (file.rows before place).any (Engine.isTrueOf condition) := by
    rw [h.removed]
    exact List.filter_congr fun file hfile => by rw [hrows file hfile]
  refine ⟨hremoved, ?_⟩
  rw [h.kept]
  refine List.flatMap_congr fun file hfile => ?_
  rw [hremoved] at hfile
  rw [hrows file (List.mem_of_mem_filter hfile)]

/-- The files that an exact deletion leaves, and the rows that it keeps, make up the rows on which
the predicate is not true. -/
theorem IsExact.rows_perm (h : IsExact tree place snapshot condition deletion) :
    ((snapshot.files.filter fun file =>
        !(file.rows tree place).any (Engine.isTrueOf condition)).flatMap
          (DataFile.rows tree place) ++ deletion.kept).Perm
      ((snapshot.rows tree place).filter fun row => !Engine.isTrueOf condition row) := by
  rw [h.kept, h.removed, Snapshot.rows]
  exact filter_flatMap_perm _ _ _

/-- The rows that an exact deletion keeps come from live files. -/
theorem IsExact.exists_of_mem_kept (h : IsExact tree place snapshot condition deletion) {row : Row}
    (hrow : row ∈ deletion.kept) : ∃ file ∈ snapshot.files, row ∈ file.rows tree place := by
  rw [h.kept, h.removed, List.mem_flatMap] at hrow
  obtain ⟨file, hfile, hrow⟩ := hrow
  exact ⟨file, List.mem_of_mem_filter hfile, List.mem_of_mem_filter hrow⟩

/-- An exact deletion removes no file exactly if the predicate is true of no row. -/
theorem IsExact.removed_eq_nil_iff (h : IsExact tree place snapshot condition deletion) :
    deletion.removed = [] ↔
      ∀ row ∈ snapshot.rows tree place, Engine.isTrueOf condition row = false := by
  rw [h.removed, List.filter_eq_nil_iff]
  simp only [Snapshot.rows, List.mem_flatMap, List.any_eq_true, not_exists, not_and,
    Bool.not_eq_true]
  constructor
  · intro hall row hmem
    obtain ⟨file, hfile, hrow⟩ := hmem
    exact hall file hfile row hrow
  · intro hall file hfile row hrow
    exact hall row ⟨file, hfile, hrow⟩

end Deletion

end LogTable
