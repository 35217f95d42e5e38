import LogTable.Proofs.Alike
import LogTable.Proofs.Removal
import LogTable.Proofs.Table.Room

/-!
# Operations in lockstep

A relation between trees is a lockstep at a place (`Table.IsLockstep`) if related trees agree on all
that writers look at below the place, and stay related when the same is put there into both.  Then
the operations on a table do the same in related worlds as soon as they get to the place alike and
read the same there (`Table.ReadsAlike`): `Table.agreeFrom_append`, `Table.agreeFrom_delete`,
`Table.agreeFrom_checkpoint`, `Table.agreeFrom_scan`.  Having the same view is such a relation, so
all that a scenario does depends on the view of the files only (`Operations.areAlike_sameView`).
-/

namespace LogTable

open FileTree Run Predicate

namespace Table

/-! ### Checkpoint files -/

/-- The path leads from the place of a table to a checkpoint or to the pointer to the last one. -/
def IsCheckpointFile (path : Location) : Prop :=
  path = [Log.directoryName, Log.pointerName] ∨
    ∃ version, path = [Log.directoryName, Log.versionText version ++ Log.checkpointEnding]

/-- No way leads to a checkpoint file. -/
theorem IsWay.not_isCheckpointFile {path : Location} (h : IsWay path) :
    ¬ IsCheckpointFile path := by
  rintro (rfl | ⟨version, rfl⟩)
  · exact not_isWay_log_append _ h
  · exact not_isWay_log_append _ h

/-- A data file is no checkpoint file. -/
theorem not_isCheckpointFile_of_isDataPath {path : Location} (h : IsDataPath path) :
    ¬ IsCheckpointFile path := by
  rintro (rfl | ⟨version, rfl⟩)
  · exact h.2 rfl
  · exact h.2 rfl

/-- A commit is no checkpoint file. -/
theorem not_isCheckpointFile_commit (version : Nat) :
    ¬ IsCheckpointFile [Log.directoryName, Log.versionText version ++ Log.commitEnding] := by
  have hcommit : ∀ text : String,
      (text ++ Log.commitEnding).toList.getLast? = some 'n' := fun text => by
    rw [String.toList_append, List.getLast?_append]
    rfl
  have hcheckpoint : ∀ text : String,
      (text ++ Log.checkpointEnding).toList.getLast? = some 't' := fun text => by
    rw [String.toList_append, List.getLast?_append]
    rfl
  rintro (heq | ⟨version', heq⟩)
  · have hname := hcommit (Log.versionText version)
    rw [(List.cons.inj (List.cons.inj heq).2).1] at hname
    exact absurd hname (by decide)
  · have hname := hcommit (Log.versionText version)
    rw [(List.cons.inj (List.cons.inj heq).2).1, hcheckpoint] at hname
    exact absurd hname (by decide)

theorem commitPath_eq (place : Location) (version : Nat) :
    Log.commitPath place version =
      place ++ [Log.directoryName, Log.versionText version ++ Log.commitEnding] := by
  simp [Log.commitPath, Log.directory]

/-! ### Lockstep -/

/-- Related trees agree below the place but for the contents of checkpoint files, and stay related
when the same is put there into both. -/
structure IsLockstep (place : Location)
    (Q : FileTree Content → FileTree Content → Prop) : Prop where
  find?_eq : ∀ {first second}, Q first second → ∀ {path}, ¬ IsCheckpointFile path →
    first.find? (place ++ path) = second.find? (place ++ path)
  isDirectory_eq : ∀ {first second}, Q first second → ∀ path,
    first.isDirectory (place ++ path) = second.isDirectory (place ++ path)
  put : ∀ {first second}, Q first second → ∀ {path}, path ≠ [] → ∀ entry,
    Q (first.put (place ++ path) entry) (second.put (place ++ path) entry)

/-- Having the same view is a lockstep at every place. -/
theorem isLockstep_sameView (place : Location) : IsLockstep place FileTree.SameView where
  find?_eq h _ _ := h _
  isDirectory_eq h _ := h.isDirectory_eq _
  put h _ hne entry := h.put (by simp [hne]) entry

namespace IsLockstep

variable {place : Location} {Q : FileTree Content → FileTree Content → Prop}
  {first second : FileTree Content}

/-- The directories of a way below the place are made alike. -/
theorem makeDirectories (hQ : IsLockstep place Q) (h : Q first second) {front names : List String}
    (hway : IsWay (front ++ names)) :
    (first.makeDirectories (place ++ front) names).1 =
        (second.makeDirectories (place ++ front) names).1 ∧
      Q (first.makeDirectories (place ++ front) names).2
        (second.makeDirectories (place ++ front) names).2 := by
  induction names generalizing first second front with
  | nil => exact ⟨rfl, h⟩
  | cons name names ih =>
    have hway' : IsWay ((front ++ [name]) ++ names) := by simpa using hway
    have hnext : IsWay (front ++ [name]) := hway'.of_prefix (List.prefix_append _ _)
    have hup : name ≠ ".." := by
      rintro rfl
      exact hnext.not_mem_up (by simp)
    have hfind := hQ.find?_eq h hnext.not_isCheckpointFile
    rw [FileTree.makeDirectories, FileTree.makeDirectories, if_neg hup, if_neg hup]
    by_cases hfits : (!fits name) = true
    · rw [if_pos hfits, if_pos hfits]
      exact ⟨rfl, h⟩
    · rw [if_neg hfits, if_neg hfits]
      simp only [List.append_assoc, hfind, hQ.isDirectory_eq h]
      cases second.find? (place ++ (front ++ [name])) with
      | some entry =>
        cases entry with
        | directory => exact ih h hway'
        | file content => exact ⟨rfl, h⟩
      | none =>
        dsimp only
        split_ifs
        · exact ih (hQ.put h (by simp) _) hway'
        · exact ⟨rfl, h⟩

end IsLockstep

/-! ### Data files and commits -/

/-- Two searches for a free number find the same if both reach one. -/
theorem firstFree_eq_of_reach (taken : Nat → Bool) {fuel fuel' n k : Nat} (hn : n ≤ k)
    (hk : k ≤ n + fuel) (hk' : k ≤ n + fuel') (hfree : taken k = false) :
    firstFree taken fuel n = firstFree taken fuel' n := by
  induction fuel generalizing n fuel' with
  | zero =>
    obtain rfl : n = k := by omega
    cases fuel' with
    | zero => rfl
    | succ fuel' => rw [firstFree, firstFree, hfree, if_neg (by decide)]
  | succ fuel ih =>
    cases fuel' with
    | zero =>
      obtain rfl : n = k := by omega
      rw [firstFree, firstFree, hfree, if_neg (by decide)]
    | succ fuel' =>
      rw [firstFree, firstFree]
      split_ifs with htaken
      · have hne : n ≠ k := fun h => by simp [h, hfree] at htaken
        exact ih (by omega) (by omega) (by omega)
      · rfl

/-- The name for a new data file depends on what stands under such names only. -/
theorem freshName_congr {first second : FileTree Content} {directory : Location} {version : Nat}
    (h : ∀ serial, first.find? (directory ++ [dataName version serial]) =
      second.find? (directory ++ [dataName version serial])) :
    freshName first directory version = freshName second directory version := by
  obtain ⟨k, hk, hk', hfree⟩ : ∃ k, k ≤ first.entries.length ∧ k ≤ second.entries.length ∧
      second.find? (directory ++ [dataName version k]) = none := by
    obtain ⟨k, hk, hfree⟩ := exists_find?_dataName_eq_none first directory version
    obtain ⟨k', hk', hfree'⟩ := exists_find?_dataName_eq_none second directory version
    rcases le_total k k' with hle | hle
    · exact ⟨k, hk, hle.trans hk', h _ ▸ hfree⟩
    · exact ⟨k', hle.trans hk, hk', hfree'⟩
  unfold freshName
  simp only [h _]
  rw [firstFree_eq_of_reach _ (Nat.zero_le k) (by omega : k ≤ 0 + first.entries.length)
    (by omega : k ≤ 0 + second.entries.length) (by simp [hfree])]

section Writing

variable {place : Location} {Q : FileTree Content → FileTree Content → Prop}

theorem alike_writeFile (hQ : IsLockstep place Q) (version : Nat) (activity : Activity)
    (values : PartitionValues) (row : Row) (rows : List Row) :
    (writeFile place version activity values row rows).Alike (World.Related Q)
      (writeFile place version activity values row rows) := by
  refine alike_tree_bind fun first second h => ?_
  have hway : IsWay ([] ++ Partition.directory values) := isWay_directory values
  have hmade := hQ.makeDirectories h hway
  rw [List.append_nil] at hmade
  intro world world' hrelated
  refine (alike_ofOutcome _ hmade hrelated).bind fun directory hdirectory => ?_
  obtain rfl : directory = place ++ Partition.directory values := by
    cases hanswer : (first.makeDirectories place (Partition.directory values)).1 with
    | error fault => simp [hanswer, Except.mapError] at hdirectory
    | ok l =>
      rw [start_ofOutcome, hanswer] at hdirectory
      rw [← Except.ok.inj hdirectory, eq_follow_of_makeDirectories hanswer,
        follow_eq_append (isWay_directory values).not_mem_up]
  refine alike_tree_bind fun first second h => ?_
  have hname : freshName first (place ++ Partition.directory values) version =
      freshName second (place ++ Partition.directory values) version := by
    refine freshName_congr fun serial => ?_
    rw [List.append_assoc]
    exact hQ.find?_eq h
      (not_isCheckpointFile_of_isDataPath (isDataPath_directory_append values version serial))
  simp only [hname, List.append_assoc]
  exact (alike_setTree (hQ.put h (by simp) _)).bind fun _ => alike_pure _

theorem alike_writeFiles (hQ : IsLockstep place Q) (version : Nat) (activity : Activity)
    (groups : List (PartitionValues × List Row)) :
    (writeFiles place version activity groups).Alike (World.Related Q)
      (writeFiles place version activity groups) := by
  induction groups with
  | nil => exact alike_pure []
  | cons group groups ih =>
    obtain ⟨values, _ | ⟨row, rows⟩⟩ := group
    · exact ih
    · exact (alike_writeFile hQ version activity values row rows).bind fun _ =>
        ih.bind fun _ => alike_pure _

theorem alike_commit (hQ : IsLockstep place Q) (version : Nat) (activity : Activity)
    (actions : List Action) :
    (commit place version activity actions).Alike (World.Related Q)
      (commit place version activity actions) := by
  unfold commit
  split_ifs
  · exact alike_throw_bind _ _ _
  · refine alike_tree_bind fun first second h => ?_
    have hway : IsWay ([] ++ [Log.directoryName]) := isWay_log
    have hmade := hQ.makeDirectories h hway
    rw [List.append_nil] at hmade
    refine (alike_ofOutcome _ hmade).bind fun _ => alike_tree_bind fun first second h => ?_
    rw [commitPath_eq, hQ.find?_eq h (not_isCheckpointFile_commit version)]
    split_ifs
    · exact alike_throw_bind _ _ _
    · exact alike_setTree (hQ.put h (by simp) _)

theorem alike_appendVersion (hQ : IsLockstep place Q) (version : Nat) (actions : List Action)
    (columns : List Column) (rows : List Row) :
    (appendVersion place version actions columns rows).Alike (World.Related Q)
      (appendVersion place version actions columns rows) := by
  refine (alike_writeFiles hQ _ _ _).bind fun files => (alike_commit hQ _ _ _).bind fun _ => ?_
  split_ifs
  · exact alike_throw _
  · exact alike_pure ()

theorem alike_carryOut (hQ : IsLockstep place Q) (snapshot : Snapshot) (deletion : Deletion) :
    (carryOut place snapshot deletion).Alike (World.Related Q)
      (carryOut place snapshot deletion) := by
  unfold carryOut
  split_ifs
  · exact alike_pure _
  · exact (alike_writeFiles hQ _ _ _).bind fun _ =>
      (alike_commit hQ _ _ _).bind fun _ => alike_pure _

theorem alike_replaceFile (hQ : IsLockstep place Q) {path : Location} (hne : path ≠ [])
    (content : Content) :
    (replaceFile (place ++ path) content).Alike (World.Related Q)
      (replaceFile (place ++ path) content) := by
  refine alike_tree_bind fun _ _ h => ?_
  rw [hQ.isDirectory_eq h]
  split_ifs
  · exact alike_throw_bind _ _ _
  · exact alike_setTree (hQ.put h hne _)

end Writing

/-! ### Operations -/

/-- The log at the place says the same in both trees, and from there on related trees have the same
rows in the data files that it speaks of. -/
structure ReadsAlike (place : Location) (Q : FileTree Content → FileTree Content → Prop)
    (first second : FileTree Content) : Prop where
  read_eq : Log.read first place = Log.read second place
  rows?_eq : ∀ snapshot, Log.read first place = .table snapshot → ∀ file ∈ snapshot.files,
    ∀ first' second', Q first' second' → file.rows? first' place = file.rows? second' place

/-- From two worlds, a place is opened alike, and the same is read there. -/
structure OpensAlike (Q : FileTree Content → FileTree Content → Prop) (run : Run Location)
    (first second : World) : Prop where
  agreeFrom : run.AgreeFrom (World.Related Q) run first second
  isLockstep : ∀ place after, run.start first = (.ok place, after) → IsLockstep place Q
  readsAlike : ∀ place after after', run.start first = (.ok place, after) →
    run.start second = (.ok place, after') → World.Related Q after after' →
    ReadsAlike place Q after.tree after'.tree

section Operations

variable {table : Table} {Q : FileTree Content → FileTree Content → Prop} {first second : World}
  {place : Location}

/-- Runs that start with opening a place agree if they agree from there on. -/
theorem OpensAlike.bind {α : Type} {run : Run Location} (h : OpensAlike Q run first second)
    {f : Location → Run α}
    (hf : ∀ place after after', IsLockstep place Q → ReadsAlike place Q after.tree after'.tree →
      World.Related Q after after' → (f place).AgreeFrom (World.Related Q) (f place) after after') :
    (run >>= f).AgreeFrom (World.Related Q) (run >>= f) first second :=
  h.agreeFrom.bind_of_start fun place after after' hrun hrun' hrelated =>
    hf place after after' (h.isLockstep place after hrun)
      (h.readsAlike place after after' hrun hrun' hrelated) hrelated

/-- What is done with the files comes out alike if it does so with the files of the two worlds. -/
theorem agreeFrom_tree_bind {α : Type} {f f' : FileTree Content → Run α} {R : World → World → Prop}
    (h : (f first.tree).AgreeFrom R (f' second.tree) first second) :
    (tree >>= f).AgreeFrom R (tree >>= f') first second :=
  h

/-- What is done with the home comes out alike if it does so with the homes of the two worlds. -/
theorem agreeFrom_home_bind {α : Type} {f f' : Location → Run α} {R : World → World → Prop}
    (h : (f first.home).AgreeFrom R (f' second.home) first second) :
    (home >>= f).AgreeFrom R (home >>= f') first second :=
  h

/-- The snapshot of a log that says the same is taken alike. -/
theorem agreeFrom_snapshotAt (hread : Log.read first.tree place = Log.read second.tree place)
    (hrelated : World.Related Q first second) :
    (snapshotAt place).AgreeFrom (World.Related Q) (snapshotAt place) first second := by
  refine agreeFrom_tree_bind ?_
  rw [hread]
  split
  · exact alike_pure _ hrelated
  · exact alike_throw _ hrelated

/-- Appends agree if the place is opened alike. -/
theorem agreeFrom_append (rows : List Row) (partitionBy : List String)
    (h : OpensAlike Q table.placeForWriting first second) :
    (table.append rows partitionBy).AgreeFrom (World.Related Q) (table.append rows partitionBy)
      first second := by
  have hfinish : ∀ version : Nat, (do
      record (.batchAppended table.uri version rows.length)
      return version : Run Nat).Alike (World.Related Q) (do
      record (.batchAppended table.uri version rows.length)
      return version) := fun _ => (alike_record _ _).bind fun _ => alike_pure _
  refine h.bind fun place after after' hQ hreads hrelated => agreeFrom_tree_bind ?_
  rw [hreads.read_eq]
  split
  · exact alike_throw_bind _ _ _ hrelated
  · split
    · exact alike_throw_bind _ _ _ hrelated
    · exact ((alike_appendVersion hQ _ _ _ _).bind fun _ => (alike_pure _).bind hfinish) hrelated
  · split_ifs
    · exact ((alike_appendVersion hQ _ _ _ _).bind fun _ => (alike_pure _).bind hfinish) hrelated
    · exact alike_throw_bind _ _ _ hrelated

/-- A deletion depends on the rows of the live files only. -/
theorem deletion_congr [Engine] {first second : FileTree Content} {snapshot : Snapshot}
    (h : ∀ file ∈ snapshot.files, file.rows? first place = file.rows? second place)
    (condition : Engine.Condition) :
    Deletion.of? first place snapshot condition = Deletion.of? second place snapshot condition := by
  have hverdicts : ∀ file ∈ snapshot.files, Deletion.verdicts? first place condition file =
      Deletion.verdicts? second place condition file := by
    intro file hfile
    rw [Deletion.verdicts?, h file hfile, Deletion.verdicts?]
  have hread : (snapshot.files.mapM fun file =>
      (Deletion.verdicts? first place condition file).map fun verdicts => (file, verdicts)) =
      snapshot.files.mapM fun file =>
        (Deletion.verdicts? second place condition file).map fun verdicts => (file, verdicts) :=
    mapM_congr fun file hfile => by rw [hverdicts file hfile]
  rw [Deletion.of?, Deletion.ofRows?, hread, Deletion.of?, Deletion.ofRows?]

/-- Deletions agree if the place is opened alike. -/
theorem agreeFrom_delete [Engine] (predicate : String)
    (h : OpensAlike Q table.placeForWriting first second) :
    (table.delete predicate).AgreeFrom (World.Related Q) (table.delete predicate) first second := by
  refine h.bind fun place after after' hQ hreads hrelated => agreeFrom_tree_bind ?_
  cases hread : Log.read after.tree place with
  | damaged =>
    rw [← hreads.read_eq, hread]
    exact alike_throw_bind _ _ _ hrelated
  | absent =>
    rw [← hreads.read_eq, hread]
    exact alike_throw_bind _ _ _ hrelated
  | table snapshot =>
    have hsame := deletion_congr fun file hfile =>
      hreads.rows?_eq snapshot hread file hfile _ _ hrelated.2
    rw [← hreads.read_eq, hread]
    simp only [hsame, pure_bind]
    split
    · exact alike_throw_bind _ _ _ hrelated
    · split
      · exact alike_throw_bind _ _ _ hrelated
      · exact ((alike_carryOut hQ _ _).bind fun _ =>
          (alike_record _ _).bind fun _ => alike_pure _) hrelated

/-- Checkpoints agree if the place is opened alike. -/
theorem agreeFrom_checkpoint (h : OpensAlike Q table.placeForReading first second) :
    table.checkpoint.AgreeFrom (World.Related Q) table.checkpoint first second := by
  refine h.bind fun place after after' hQ hreads hrelated =>
    (agreeFrom_snapshotAt hreads.read_eq hrelated).bind fun snapshot _ => ?_
  rw [Log.checkpointPath_eq, Log.pointerPath_eq]
  exact (alike_replaceFile hQ (by simp) _).bind fun _ =>
    (alike_replaceFile hQ (by simp) _).bind fun _ =>
    (alike_record _ _).bind fun _ => alike_pure _

/-- Scans agree if the place is opened alike. -/
theorem agreeFrom_scan (h : OpensAlike Q table.placeForReading first second) :
    table.scan.AgreeFrom (World.Related Q) table.scan first second := by
  refine h.bind fun place after after' hQ hreads hrelated =>
    (agreeFrom_snapshotAt hreads.read_eq hrelated).bind fun snapshot hsnapshot => ?_
  have hread : Log.read after.tree place = .table snapshot :=
    ((snapshotAt_ensures place after).of_ok (Prod.ext hsnapshot rfl)).2
  refine alike_tree_bind fun tree tree' h => ?_
  have hrows : snapshot.rows? tree place = snapshot.rows? tree' place := by
    rw [Snapshot.rows?, Snapshot.rows?, mapM_congr fun file hfile =>
      hreads.rows?_eq snapshot hread file hfile _ _ h]
  rw [hrows]
  split
  · exact alike_pure _
  · exact alike_throw _

end Operations

/-! ### Worlds with the same view -/

/-- Logs with the same view have the same reading. -/
theorem read_eq_of_sameView {first second : FileTree Content} (h : first.SameView second)
    (place : Location) : Log.read first place = Log.read second place :=
  Log.read_congr fun name content => by rw [h]

/-- Trees with the same view are read alike. -/
theorem readsAlike_of_sameView {first second : FileTree Content} (h : first.SameView second)
    (place : Location) : ReadsAlike place FileTree.SameView first second where
  read_eq := read_eq_of_sameView h place
  rows?_eq _ _ file _ first' second' h' := by
    rw [DataFile.rows?, h'.content?_eq, DataFile.rows?]

/-- What leads to worlds with the same view opens the place alike. -/
theorem opensAlike_of_agreeFrom {run : Run Location} {first second : World}
    (h : run.AgreeFrom World.SameView run first second) :
    OpensAlike FileTree.SameView run first second where
  agreeFrom := h
  isLockstep place _ _ := isLockstep_sameView place
  readsAlike place _ _ _ _ hrelated := readsAlike_of_sameView hrelated.2 place

theorem alike_openStore (place : Location) :
    (openStore place).Alike World.SameView (openStore place) := by
  unfold openStore
  split_ifs
  · exact alike_pure ()
  · exact alike_tree_bind fun _ _ h =>
      (alike_ofOutcome _ (h.makeDirectories _ _)).bind fun _ => alike_pure ()

theorem alike_placeForWriting (table : Table) :
    table.placeForWriting.Alike World.SameView table.placeForWriting := by
  unfold placeForWriting
  split
  · exact alike_throw _
  · exact alike_throw _
  · exact alike_tree_bind fun _ _ h => alike_home.bind fun _ =>
      (alike_ofOutcome _ (h.createDirectories _ _)).bind fun place =>
        (alike_openStore place).bind fun _ => alike_pure place

theorem alike_placeForReading (table : Table) :
    table.placeForReading.Alike World.SameView table.placeForReading := by
  unfold placeForReading
  split
  · refine alike_tree_bind fun _ _ h => alike_home.bind fun home => ?_
    rw [h.resolve_eq]
    split
    · exact alike_throw _
    · rename_i place _
      rw [h.isDirectory_eq]
      split_ifs
      · exact alike_throw_bind _ _ _
      · exact (alike_openStore place).bind fun _ => alike_pure place
  · exact alike_throw _

end Table

/-- Removals agree if the directory is removed alike. -/
theorem StorageMode.agreeFrom_resetLocal {Q : FileTree Content → FileTree Content → Prop}
    {first second : World} {path : String} (hhome : first.home = second.home)
    (h : (first.tree.removeDirectory first.home path).1 =
        (second.tree.removeDirectory second.home path).1 ∧
      Q (first.tree.removeDirectory first.home path).2
        (second.tree.removeDirectory second.home path).2) :
    (localFiles.resetLocal path).AgreeFrom (World.Related Q) (localFiles.resetLocal path) first
      second := by
  unfold AgreeFrom
  rw [start_resetLocal, start_resetLocal]
  generalize first.tree.removeDirectory first.home path = result at h
  generalize second.tree.removeDirectory second.home path = result' at h
  obtain ⟨outcome, tree⟩ := result
  obtain ⟨outcome', tree'⟩ := result'
  obtain ⟨rfl, hrelated⟩ := h
  cases outcome with
  | ok done => exact ⟨rfl, hhome, hrelated⟩
  | error fault => cases fault <;> exact ⟨rfl, hhome, hrelated⟩

/-- Removing a table depends on the view of the files only. -/
theorem StorageMode.alike_resetLocal (storage : StorageMode) (path : String) :
    (storage.resetLocal path).Alike World.SameView (storage.resetLocal path) := by
  cases storage with
  | objectStore store => exact alike_pure false
  | localFiles =>
    intro first second h
    refine agreeFrom_resetLocal h.1 ?_
    rw [← h.1]
    exact h.2.removeDirectory first.home path

/-- Appending rows depends on the view of the files only. -/
theorem Table.alike_append (table : Table) (rows : List Row) (partitionBy : List String) :
    (table.append rows partitionBy).Alike World.SameView (table.append rows partitionBy) :=
  fun _ _ h => agreeFrom_append rows partitionBy
    (opensAlike_of_agreeFrom (alike_placeForWriting table h))

/-- All that is done to a table depends on the view of the files only. -/
theorem Operations.areAlike_sameView [Engine] (storage : StorageMode) (uri : String) :
    AreAlike World.SameView storage uri where
  record event := alike_record event event
  append := Table.alike_append ⟨uri⟩
  delete predicate _ _ h := Table.agreeFrom_delete predicate
    (Table.opensAlike_of_agreeFrom (Table.alike_placeForWriting ⟨uri⟩ h))
  checkpoint _ _ h := Table.agreeFrom_checkpoint
    (Table.opensAlike_of_agreeFrom (Table.alike_placeForReading ⟨uri⟩ h))
  scan _ _ h := Table.agreeFrom_scan
    (Table.opensAlike_of_agreeFrom (Table.alike_placeForReading ⟨uri⟩ h))
  resetLocal := storage.alike_resetLocal uri

end LogTable
