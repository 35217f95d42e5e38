import LogTable.Proofs.Table.Growth
import Mathlib.Data.List.Sort

/-!
# What a log says

The reading of a log depends only on the files of its directory: the pointer, the checkpoints and
the commits, each list ordered by version (`mem_commits_iff`, `pairwise_numbered`).  A growth
changes none of them (`Growth.read_eq`).  From the reading of a log follows its reading after one
more commit (`read_of_committed`, `read_of_first_commit`) and after a checkpoint of its own
snapshot (`read_put_checkpoint`), whatever else the log holds.
-/

namespace LogTable

open FileTree

namespace FileTree

variable {α : Type}

theorem content?_eq_some_iff {tree : FileTree α} {l : Location} {content : α} :
    tree.content? l = some content ↔ tree.find? l = some (.file content) := by
  unfold content?
  cases tree.find? l with
  | none => simp
  | some entry => cases entry <;> simp [Entry.content?]

theorem content?_put_of_ne {tree : FileTree α} {l other : Location} {entry : Entry α}
    (hl : l ≠ []) (hne : other ≠ l) : (tree.put l entry).content? other = tree.content? other := by
  rw [content?, find?_put _ _ _ hl, if_neg hne]
  rfl

/-- The files of a directory are those that stand at its location and one name. -/
theorem mem_filesIn {tree : FileTree α} {top : Location} {name : String} {content : α} :
    (name, content) ∈ tree.filesIn top ↔ tree.find? (top ++ [name]) = some (.file content) := by
  rw [tree.find?_eq_some_iff (by simp)]
  simp only [filesIn, below, List.mem_filterMap, List.mem_map, List.mem_filter]
  constructor
  · rintro ⟨_, ⟨⟨l, entry⟩, ⟨hmem, hbelow⟩, rfl⟩, hname⟩
    obtain ⟨⟨rest, rfl⟩, -⟩ := isBelow_eq_true.mp hbelow
    simp only [List.drop_left] at hname
    split at hname
    · rename_i heq
      simp only [Option.some.injEq, Prod.mk.injEq] at hname heq
      rw [heq.1, heq.2, hname.1, hname.2] at hmem
      exact hmem
    · cases hname
  · intro hmem
    refine ⟨([name], .file content), ⟨(top ++ [name], .file content), ⟨hmem, ?_⟩, by simp⟩, rfl⟩
    simp [isBelow]

/-- What lies below a location stands at different paths from there. -/
theorem nodup_below (tree : FileTree α) (top : Location) :
    ((tree.below top).map Prod.fst).Nodup := by
  have hfilter : ((tree.entries.filter fun e => isBelow top e.1).map Prod.fst).Nodup :=
    tree.nodup.sublist (List.filter_sublist.map _)
  have hmap : (tree.below top).map Prod.fst =
      ((tree.entries.filter fun e => isBelow top e.1).map Prod.fst).map (List.drop top.length) := by
    simp [below, Function.comp_def]
  rw [hmap]
  refine hfilter.map_on ?_
  have hprefix : ∀ l ∈ (tree.entries.filter fun e => isBelow top e.1).map Prod.fst, top <+: l := by
    intro l hl
    obtain ⟨entry, hentry, rfl⟩ := List.mem_map.mp hl
    exact (isBelow_eq_true.mp (List.mem_filter.mp hentry).2).1
  intro l hl l' hl' heq
  obtain ⟨rest, rfl⟩ := hprefix l hl
  obtain ⟨rest', rfl⟩ := hprefix l' hl'
  simpa using heq

/-- The files of a directory have different names. -/
theorem nodup_filesIn (tree : FileTree α) (top : Location) :
    ((tree.filesIn top).map Prod.fst).Nodup := by
  have hbelow := List.pairwise_map.mp (nodup_below tree top)
  unfold filesIn
  refine List.pairwise_map.mpr (List.Pairwise.filterMap _ (fun e e' hne b hb b' hb' => ?_) hbelow)
  split at hb <;> cases hb
  split at hb' <;> cases hb'
  simpa using hne

end FileTree

namespace Log

/-! ### The parts of a log -/

/-- Inserting files by version one after the other sorts them by version. -/
theorem foldr_insertByVersion_eq (files : List (Nat × Content)) :
    files.foldr insertByVersion [] = files.insertionSort fun a b => a.1 ≤ b.1 := by
  have hinsert : ∀ (file : Nat × Content) (others : List (Nat × Content)),
      insertByVersion file others = others.orderedInsert (fun a b => a.1 ≤ b.1) file := by
    intro file others
    induction others with
    | nil => rfl
    | cons other others ih => rw [insertByVersion, List.orderedInsert, ih]
  induction files with
  | nil => rfl
  | cons file files ih => rw [List.foldr_cons, List.insertionSort_cons, ih, hinsert]

/-- The numbered files of a directory are those whose names are versions. -/
theorem mem_numbered {ending : String} {files : List (String × Content)} {version : Nat}
    {content : Content} :
    (version, content) ∈ numbered ending files ↔
      version < digitsLimit ∧ (versionText version ++ ending, content) ∈ files := by
  simp only [numbered, foldr_insertByVersion_eq, List.mem_insertionSort, List.mem_filterMap,
    Option.map_eq_some_iff, Prod.mk.injEq, versionOf?_eq_some_iff]
  constructor
  · rintro ⟨⟨name, content⟩, hmem, version, ⟨hlt, rfl⟩, rfl, rfl⟩
    exact ⟨hlt, hmem⟩
  · rintro ⟨hlt, hmem⟩
    exact ⟨_, hmem, version, ⟨hlt, rfl⟩, rfl, rfl⟩

/-- Numbered files are ordered by version, and no two have the same. -/
theorem pairwise_numbered (ending : String) {files : List (String × Content)}
    (h : (files.map Prod.fst).Nodup) :
    (numbered ending files).Pairwise fun a b => a.1 < b.1 := by
  have hne : (numbered ending files).Pairwise fun a b => a.1 ≠ b.1 := by
    rw [numbered, foldr_insertByVersion_eq]
    refine (List.perm_insertionSort _ _).symm.pairwise ?_ fun hab => Ne.symm hab
    refine List.Pairwise.filterMap _ (fun file file' hfiles a ha b hb => ?_)
      (List.pairwise_map.mp h)
    obtain ⟨version, hversion, rfl⟩ := Option.map_eq_some_iff.mp ha
    obtain ⟨version', hversion', rfl⟩ := Option.map_eq_some_iff.mp hb
    rintro rfl
    exact hfiles ((versionOf?_eq_some_iff.mp hversion).2.trans
      (versionOf?_eq_some_iff.mp hversion').2.symm)
  have hle : (numbered ending files).Pairwise fun a b => a.1 ≤ b.1 := by
    rw [numbered, foldr_insertByVersion_eq]
    exact List.pairwise_insertionSort _ _
  exact (hle.and hne).imp fun hab => lt_of_le_of_ne hab.1 hab.2

/-- The commits of a log, by version. -/
def commits (tree : FileTree Content) (place : Location) : List (Nat × Content) :=
  numbered commitEnding (tree.filesIn (directory place))

/-- The checkpoints of a log, by version. -/
def checkpoints (tree : FileTree Content) (place : Location) : List (Nat × Content) :=
  numbered checkpointEnding (tree.filesIn (directory place))

variable {tree before after : FileTree Content} {place : Location} {version : Nat}
  {content : Content}

theorem mem_commits_iff : (version, content) ∈ commits tree place ↔
    version < digitsLimit ∧ tree.find? (commitPath place version) = some (.file content) := by
  rw [commits, mem_numbered, mem_filesIn, commitPath]

theorem mem_checkpoints_iff : (version, content) ∈ checkpoints tree place ↔
    version < digitsLimit ∧ tree.find? (checkpointPath place version) = some (.file content) := by
  rw [checkpoints, mem_numbered, mem_filesIn, checkpointPath]

theorem pairwise_commits (tree : FileTree Content) (place : Location) :
    (commits tree place).Pairwise fun a b => a.1 < b.1 :=
  pairwise_numbered _ (nodup_filesIn tree _)

theorem pairwise_checkpoints (tree : FileTree Content) (place : Location) :
    (checkpoints tree place).Pairwise fun a b => a.1 < b.1 :=
  pairwise_numbered _ (nodup_filesIn tree _)

/-- Two lists in the order of their versions are equal if they hold the same. -/
theorem eq_of_mem_iff {first second : List (Nat × Content)}
    (hfirst : first.Pairwise fun a b => a.1 < b.1) (hsecond : second.Pairwise fun a b => a.1 < b.1)
    (h : ∀ version content, (version, content) ∈ first ↔ (version, content) ∈ second) :
    first = second :=
  have : Std.Irrefl fun a b : Nat × Content => a.1 < b.1 := ⟨fun a => lt_irrefl a.1⟩
  hfirst.eq_of_mem_iff hsecond fun a => h a.1 a.2

/-- The reading of a log in terms of its pointer, checkpoints and commits. -/
theorem read_eq (tree : FileTree Content) (place : Location) :
    read tree place =
      readParts (tree.content? (pointerPath place)) (checkpoints tree place)
        (commits tree place) := by
  have hpointer : (tree.filesIn (directory place)).lookup pointerName =
      tree.content? (pointerPath place) := by
    apply Option.ext
    intro content
    rw [lookup_eq_some_iff (nodup_filesIn tree _), mem_filesIn, content?_eq_some_iff, pointerPath]
  rw [read, readFiles, hpointer]
  rfl

/-- Logs with the same files have the same reading. -/
theorem read_congr
    (h : ∀ name content, before.find? (directory place ++ [name]) = some (.file content) ↔
      after.find? (directory place ++ [name]) = some (.file content)) :
    read before place = read after place := by
  have hcontent : before.content? (pointerPath place) = after.content? (pointerPath place) := by
    apply Option.ext
    intro content
    rw [content?_eq_some_iff, content?_eq_some_iff]
    exact h pointerName content
  rw [read_eq, read_eq, hcontent,
    eq_of_mem_iff (pairwise_checkpoints before place) (pairwise_checkpoints after place)
      fun version content => by
        rw [mem_checkpoints_iff, mem_checkpoints_iff, checkpointPath, h],
    eq_of_mem_iff (pairwise_commits before place) (pairwise_commits after place)
      fun version content => by rw [mem_commits_iff, mem_commits_iff, commitPath, h]]

/-! ### Replaying commits -/

theorem ofContents_eq_table_iff {contents : Contents} {snapshot : Snapshot} :
    ofContents contents version = .table snapshot ↔
      contents = snapshot.contents ∧ version = snapshot.version ∧
        snapshot.files.any hasLostValue = false := by
  obtain ⟨partitionBy, files⟩ := contents
  obtain ⟨version', partitionBy', files'⟩ := snapshot
  cases partitionBy with
  | none => simp [ofContents, Snapshot.contents]
  | some columns =>
    simp only [ofContents, Snapshot.contents]
    split_ifs with hlost
    · simp only [Contents.mk.injEq, false_iff, not_and]
      rintro ⟨-, rfl⟩ - hnot
      exact absurd (hlost.symm.trans hnot) (by decide)
    · simp only [LogReading.table.injEq, Snapshot.mk.injEq, Contents.mk.injEq, Option.some.injEq]
      constructor
      · rintro ⟨rfl, rfl, rfl⟩
        exact ⟨⟨rfl, rfl⟩, rfl, by simpa using hlost⟩
      · rintro ⟨⟨rfl, rfl⟩, rfl, -⟩
        exact ⟨rfl, rfl, rfl⟩

/-- Commits that are replayed to a table have consecutive versions and readable actions. -/
theorem replayCommits_eq_table_iff {contents : Contents} {commits : List (Nat × Content)}
    {snapshot : Snapshot} :
    replayCommits contents version commits = .table snapshot ↔
      isContiguous commits = true ∧
        (∃ actions, commits.mapM (fun commit => commit.2.actions?) = some actions ∧
          contents.replay actions.flatten = snapshot.contents) ∧
        (commits.getLast?.map Prod.fst).getD version = snapshot.version ∧
        snapshot.files.any hasLostValue = false := by
  unfold replayCommits
  cases isContiguous commits with
  | false => simp
  | true =>
    cases commits.mapM fun commit => commit.2.actions? with
    | none => simp
    | some actions => simp [ofContents_eq_table_iff]

/-- One more commit continues a list of commits if its version comes next. -/
theorem isContiguous_append_singleton {commits : List (Nat × Content)} {commit : Nat × Content}
    (h : isContiguous commits = true)
    (hnext : ∀ last, commits.getLast? = some last → commit.1 = last.1 + 1) :
    isContiguous (commits ++ [commit]) = true := by
  fun_induction isContiguous commits with
  | case1 a b rest ih =>
    simp only [Bool.and_eq_true, decide_eq_true_eq] at h
    rw [List.cons_append, List.cons_append, isContiguous, Bool.and_eq_true, decide_eq_true_eq]
    exact ⟨h.1, ih h.2 fun last hlast => hnext last (by simpa using hlast)⟩
  | case2 commits hshort =>
    match commits, hshort with
    | [], _ => rfl
    | [a], _ => simp [isContiguous, hnext a rfl]
    | a :: b :: rest, hshort => exact absurd rfl (hshort a b rest)

/-- A commit of the next version applies its actions to what has been replayed. -/
theorem replayCommits_append {contents : Contents} {commits : List (Nat × Content)}
    {snapshot : Snapshot} (h : replayCommits contents version commits = .table snapshot)
    (actions : List Action) :
    replayCommits contents version (commits ++ [(snapshot.version + 1, .commit actions)]) =
      ofContents (snapshot.contents.replay actions) (snapshot.version + 1) := by
  obtain ⟨hcontiguous, ⟨earlier, hearlier, hcontents⟩, hversion, -⟩ :=
    replayCommits_eq_table_iff.mp h
  have hcontiguous' :
      isContiguous (commits ++ [(snapshot.version + 1, .commit actions)]) = true := by
    refine isContiguous_append_singleton hcontiguous fun last hlast => ?_
    rw [hlast] at hversion
    simp [← hversion]
  have hactions : (commits ++ [(snapshot.version + 1, Content.commit actions)]).mapM
      (fun commit => commit.2.actions?) = some (earlier ++ [actions]) := by
    rw [List.mapM_append, hearlier]
    rfl
  simp only [replayCommits, hcontiguous', hactions, Bool.not_true, Bool.false_eq_true, if_false,
    List.flatten_append, Contents.replay_append, hcontents, List.getLast?_concat]
  simp

/-! ### Writing to a log -/

theorem versionText_append_inj (ending ending' : String) {first second : Nat}
    (hfirst : first < digitsLimit) (hsecond : second < digitsLimit)
    (h : versionText first ++ ending = versionText second ++ ending') :
    first = second ∧ ending = ending' := by
  have hlist := congrArg String.toList h
  rw [String.toList_append, String.toList_append] at hlist
  obtain ⟨hdigits, hending⟩ := List.append_inj hlist
    ((length_versionText hfirst).trans (length_versionText hsecond).symm)
  refine ⟨?_, String.toList_inj.mp hending⟩
  rw [← ofDigitChars_versionText first, hdigits, ofDigitChars_versionText]

/-- The pointer has no name of a version. -/
theorem pointerName_ne (version : Nat) (ending : String) :
    pointerName ≠ versionText version ++ ending := by
  intro h
  have hlist := congrArg String.toList h
  have hne : (versionText version).toList ≠ [] := by
    rw [toList_versionText]
    simp [Nat.toDigits_ne_nil]
  obtain ⟨d, ds, hds⟩ := List.exists_cons_of_ne_nil hne
  rw [String.toList_append, hds, List.cons_append] at hlist
  have hdigit : d.isDigit := isDigit_of_mem_versionText (hds ▸ List.mem_cons_self)
  have hhead : pointerName.toList.head? = some '_' := rfl
  rw [hlist, List.head?_cons, Option.some.injEq] at hhead
  exact absurd (hhead ▸ hdigit) (by decide)

theorem commitPath_ne_pointerPath (place : Location) (version : Nat) :
    commitPath place version ≠ pointerPath place := fun h =>
  pointerName_ne version _ (by simpa [commitPath, pointerPath] using h.symm)

theorem checkpointPath_ne_pointerPath (place : Location) (version : Nat) :
    checkpointPath place version ≠ pointerPath place := fun h =>
  pointerName_ne version _ (by simpa [checkpointPath, pointerPath] using h.symm)

theorem commitPath_ne_checkpointPath (place : Location) {version version' : Nat}
    (h : version < digitsLimit) (h' : version' < digitsLimit) :
    commitPath place version ≠ checkpointPath place version' := fun heq =>
  absurd (versionText_append_inj commitEnding checkpointEnding h h'
    (by simpa [commitPath, checkpointPath] using heq)).2 (by decide)

theorem commitPath_inj {place : Location} {version version' : Nat}
    (h : version < digitsLimit) (h' : version' < digitsLimit) :
    commitPath place version = commitPath place version' ↔ version = version' :=
  ⟨fun heq => (versionText_append_inj commitEnding commitEnding h h'
    (by simpa [commitPath] using heq)).1, fun heq => by rw [heq]⟩

theorem checkpointPath_inj {place : Location} {version version' : Nat}
    (h : version < digitsLimit) (h' : version' < digitsLimit) :
    checkpointPath place version = checkpointPath place version' ↔ version = version' :=
  ⟨fun heq => (versionText_append_inj checkpointEnding checkpointEnding h h'
    (by simpa [checkpointPath] using heq)).1, fun heq => by rw [heq]⟩

theorem checkpointPath_eq (place : Location) (version : Nat) :
    checkpointPath place version =
      place ++ [directoryName, versionText version ++ checkpointEnding] := by
  simp [checkpointPath, directory]

theorem pointerPath_eq (place : Location) :
    pointerPath place = place ++ [directoryName, pointerName] := by
  simp [pointerPath, directory]

@[simp] theorem commitPath_ne_nil : commitPath place version ≠ [] := by
  simp [commitPath]

@[simp] theorem checkpointPath_ne_nil : checkpointPath place version ≠ [] := by
  simp [checkpointPath]

@[simp] theorem pointerPath_ne_nil : pointerPath place ≠ [] := by
  simp [pointerPath]

/-- The commits do not change when something else is written. -/
theorem commits_put_of_ne {l : Location} {entry : Entry Content} (hne : l ≠ [])
    (h : ∀ version < digitsLimit, commitPath place version ≠ l) :
    commits (tree.put l entry) place = commits tree place := by
  refine eq_of_mem_iff (pairwise_commits _ place) (pairwise_commits tree place) fun n content => ?_
  rw [mem_commits_iff, mem_commits_iff]
  refine and_congr_right fun hn => ?_
  rw [find?_put _ _ _ hne, if_neg (h n hn)]

/-- The checkpoints do not change when something else is written. -/
theorem checkpoints_put_of_ne {l : Location} {entry : Entry Content} (hne : l ≠ [])
    (h : ∀ version < digitsLimit, checkpointPath place version ≠ l) :
    checkpoints (tree.put l entry) place = checkpoints tree place := by
  refine eq_of_mem_iff (pairwise_checkpoints _ place) (pairwise_checkpoints tree place)
    fun n content => ?_
  rw [mem_checkpoints_iff, mem_checkpoints_iff]
  refine and_congr_right fun hn => ?_
  rw [find?_put _ _ _ hne, if_neg (h n hn)]

/-- A commit beyond all others becomes the last of the commits. -/
theorem commits_put_commit (hversion : version < digitsLimit)
    (hlast : ∀ commit ∈ commits tree place, commit.1 < version) (content : Content) :
    commits (tree.put (commitPath place version) (.file content)) place =
      commits tree place ++ [(version, content)] := by
  refine eq_of_mem_iff (pairwise_commits _ place)
    (List.pairwise_append.mpr ⟨pairwise_commits tree place, List.pairwise_singleton _ _,
      fun a ha b hb => by rw [List.mem_singleton.mp hb]; exact hlast a ha⟩) fun n c => ?_
  rw [List.mem_append, List.mem_singleton, mem_commits_iff, mem_commits_iff,
    find?_put _ _ _ commitPath_ne_nil]
  by_cases hn : n < digitsLimit
  · simp only [commitPath_inj hn hversion]
    by_cases heq : n = version
    · subst heq
      have hnone : tree.find? (commitPath place n) ≠ some (.file c) := fun h =>
        lt_irrefl n (hlast _ (mem_commits_iff.mpr ⟨hn, h⟩))
      simp [hn, hnone, eq_comm]
    · simp [hn, heq]
  · have hne : n ≠ version := fun h => hn (h ▸ hversion)
    simp [hn, hne]

/-- The last of some files is the one with the greatest version. -/
theorem getLast?_eq_of_mem {files : List (Nat × Content)} {file : Nat × Content}
    (hpair : files.Pairwise fun a b => a.1 < b.1) (hmem : file ∈ files)
    (hmax : ∀ other ∈ files, other.1 ≤ file.1) : files.getLast? = some file := by
  rcases List.eq_nil_or_concat files with rfl | ⟨front, last, rfl⟩
  · cases hmem
  rw [List.concat_eq_append] at hpair hmem hmax ⊢
  rw [List.getLast?_concat]
  rcases List.mem_append.mp hmem with hfront | hlast
  · have hlt := (List.pairwise_append.mp hpair).2.2 file hfront last List.mem_cons_self
    have hle := hmax last (List.mem_append_right _ List.mem_cons_self)
    omega
  · rw [List.mem_singleton.mp hlast]

/-- A checkpoint beyond all others is the last of the checkpoints. -/
theorem getLast?_checkpoints_put (hversion : version < digitsLimit)
    (hlast : ∀ checkpoint ∈ checkpoints tree place, checkpoint.1 ≤ version) (content : Content) :
    (checkpoints (tree.put (checkpointPath place version) (.file content)) place).getLast? =
      some (version, content) := by
  have hmem : ∀ n c, (n, c) ∈
      checkpoints (tree.put (checkpointPath place version) (.file content)) place ↔
        n < digitsLimit ∧ if n = version then c = content
          else tree.find? (checkpointPath place n) = some (.file c) := by
    intro n c
    rw [mem_checkpoints_iff, find?_put _ _ _ checkpointPath_ne_nil]
    refine and_congr_right fun hn => ?_
    simp only [checkpointPath_inj hn hversion]
    split_ifs <;> simp [eq_comm]
  refine getLast?_eq_of_mem (pairwise_checkpoints _ place)
    ((hmem _ _).mpr ⟨hversion, by simp⟩) ?_
  rintro ⟨n, c⟩ hother
  obtain ⟨hn, hcontent⟩ := (hmem n c).mp hother
  split_ifs at hcontent with heq
  · exact heq.le
  · exact hlast (n, c) (mem_checkpoints_iff.mpr ⟨hn, hcontent⟩)

/-- The last of some files has the greatest version. -/
theorem le_of_getLast?_eq {files : List (Nat × Content)} {last : Nat × Content}
    (hpair : files.Pairwise fun a b => a.1 < b.1) (hlast : files.getLast? = some last) :
    ∀ file ∈ files, file.1 ≤ last.1 := by
  obtain ⟨front, rfl⟩ := List.getLast?_eq_some_iff.mp hlast
  intro file hfile
  rcases List.mem_append.mp hfile with hfront | heq
  · exact ((List.pairwise_append.mp hpair).2.2 file hfront last List.mem_cons_self).le
  · rw [List.mem_singleton.mp heq]

variable {snapshot : Snapshot}

/-- The reading of a table replays the commits after the last checkpoint, if there is one. -/
theorem readParts_eq_table_iff {pointer : Option Content}
    {checkpoints commits : List (Nat × Content)} :
    readParts pointer checkpoints commits = .table snapshot ↔
      (pointer.any fun content => !content.isPointer) = false ∧
        ((∃ version base, checkpoints.getLast? = some (version, .checkpoint base) ∧
            replayCommits base.contents version
              (commits.filter fun commit => version < commit.1) = .table snapshot) ∨
          checkpoints = [] ∧ commits ≠ [] ∧ replayCommits .empty 0 commits = .table snapshot) := by
  unfold readParts
  cases (pointer.any fun content => !content.isPointer) with
  | true => simp
  | false =>
    cases hlast : checkpoints.getLast? with
    | none =>
      rw [List.getLast?_eq_none_iff] at hlast
      cases commits <;> simp [hlast]
    | some last =>
      have hne : checkpoints ≠ [] := fun h => by simp [h] at hlast
      obtain ⟨version, content⟩ := last
      cases content <;> simp [hne]

/-- The reading of a log without checkpoints and commits is that of no table. -/
theorem readParts_eq_absent_iff {pointer : Option Content}
    {checkpoints commits : List (Nat × Content)} :
    readParts pointer checkpoints commits = .absent ↔ checkpoints = [] ∧ commits = [] ∧
      (pointer.any fun content => !content.isPointer) = false := by
  have hreplay : ∀ contents version commits, replayCommits contents version commits ≠ .absent := by
    intro contents version commits
    unfold replayCommits ofContents
    split_ifs
    · simp
    · repeat' split
      all_goals simp
  unfold readParts
  cases (pointer.any fun content => !content.isPointer) with
  | true => simp
  | false =>
    cases hlast : checkpoints.getLast? with
    | none =>
      rw [List.getLast?_eq_none_iff] at hlast
      cases commits <;> simp [hlast, hreplay]
    | some last =>
      have hne : checkpoints ≠ [] := fun h => by simp [h] at hlast
      obtain ⟨version, content⟩ := last
      cases content <;> simp [hne, hreplay]

/-- A log without files is that of no table. -/
theorem read_eq_absent (h : ∀ name content,
    tree.find? (directory place ++ [name]) ≠ some (.file content)) : read tree place = .absent := by
  rw [read_eq, readParts_eq_absent_iff]
  refine ⟨
    List.eq_nil_iff_forall_not_mem.mpr fun file hfile => h _ _ (mem_checkpoints_iff.mp hfile).2,
    List.eq_nil_iff_forall_not_mem.mpr fun file hfile => h _ _ (mem_commits_iff.mp hfile).2, ?_⟩
  cases hpointer : tree.content? (pointerPath place) with
  | none => rfl
  | some content => exact absurd (content?_eq_some_iff.mp hpointer) (h _ _)

/-- In a closed tree the log of a table is a directory. -/
theorem find?_directory_of_read_eq_table {snapshot : Snapshot} (hclosed : tree.IsClosed)
    (h : read tree place = .table snapshot) :
    tree.find? (directory place) = some .directory := by
  by_contra hnot
  have habsent : read tree place = .absent := read_eq_absent fun name content hfile =>
    hnot (hclosed _ name _ hfile)
  rw [h] at habsent
  cases habsent

/-- The version of a snapshot is the greatest in a log, and no live file has lost a value. -/
structure IsLatest (tree : FileTree Content) (place : Location) (snapshot : Snapshot) : Prop where
  version_lt : snapshot.version < digitsLimit
  checkpoints_le : ∀ file ∈ checkpoints tree place, file.1 ≤ snapshot.version
  commits_le : ∀ file ∈ commits tree place, file.1 ≤ snapshot.version
  not_hasLostValue : snapshot.files.any hasLostValue = false

/-- The reading of a log gives its latest snapshot. -/
theorem isLatest_of_read_eq_table (h : read tree place = .table snapshot) :
    IsLatest tree place snapshot := by
  rw [read_eq, readParts_eq_table_iff] at h
  have hcommits := pairwise_commits tree place
  obtain ⟨-, ⟨version, base, hlast, hreplay⟩ | ⟨hnone, hne, hreplay⟩⟩ := h
  · obtain ⟨-, -, hversion, hlost⟩ := replayCommits_eq_table_iff.mp hreplay
    have hbase := le_of_getLast?_eq (pairwise_checkpoints tree place) hlast
    have hmem := mem_checkpoints_iff.mp (List.mem_of_getLast? hlast)
    cases hlater : ((commits tree place).filter fun commit => version < commit.1).getLast? with
    | none =>
      rw [hlater] at hversion
      obtain rfl : version = snapshot.version := hversion
      refine ⟨hmem.1, hbase, fun file hfile => ?_, hlost⟩
      by_contra hlt
      rw [List.getLast?_eq_none_iff, List.filter_eq_nil_iff] at hlater
      exact hlater file hfile (by simpa using hlt)
    | some last =>
      rw [hlater] at hversion
      have hversion : last.1 = snapshot.version := hversion
      have hfilter := List.mem_filter.mp (List.mem_of_getLast? hlater)
      have hlt : version < last.1 := by simpa using hfilter.2
      rw [hversion] at hlt
      refine ⟨hversion ▸ (mem_commits_iff.mp hfilter.1).1,
        fun file hfile => (hbase file hfile).trans hlt.le, fun file hfile => ?_, hlost⟩
      by_cases hfile' : version < file.1
      · rw [← hversion]
        exact le_of_getLast?_eq (hcommits.filter _) hlater file
          (List.mem_filter.mpr ⟨hfile, by simpa using hfile'⟩)
      · omega
  · obtain ⟨-, -, hversion, hlost⟩ := replayCommits_eq_table_iff.mp hreplay
    cases hlast : (commits tree place).getLast? with
    | none => exact absurd (List.getLast?_eq_none_iff.mp hlast) hne
    | some last =>
      rw [hlast] at hversion
      have hversion : last.1 = snapshot.version := hversion
      refine ⟨hversion ▸ (mem_commits_iff.mp (List.mem_of_getLast? hlast)).1, ?_,
        hversion ▸ le_of_getLast?_eq hcommits hlast, hlost⟩
      simp [hnone]

/-- After a commit of the next version the log says what its actions make of the table. -/
theorem read_put_commit (h : read tree place = .table snapshot)
    (hnext : snapshot.version + 1 < digitsLimit) (actions : List Action) :
    read (tree.put (commitPath place (snapshot.version + 1)) (.file (.commit actions))) place =
      ofContents (snapshot.contents.replay actions) (snapshot.version + 1) := by
  obtain ⟨-, hcheckpoints, hcommits, -⟩ := isLatest_of_read_eq_table h
  rw [read_eq, content?_put_of_ne commitPath_ne_nil (commitPath_ne_pointerPath place _).symm,
    checkpoints_put_of_ne commitPath_ne_nil
      fun version hv => (commitPath_ne_checkpointPath place hnext hv).symm,
    commits_put_commit hnext fun commit hc => Nat.lt_succ_of_le (hcommits commit hc)]
  rw [read_eq, readParts_eq_table_iff] at h
  obtain ⟨hok, ⟨version, base, hlast, hreplay⟩ | ⟨hnone, hne, hreplay⟩⟩ := h
  · have hversion := hcheckpoints _ (List.mem_of_getLast? hlast)
    simp only [readParts, hok, hlast, Bool.false_eq_true, if_false, List.filter_append]
    rw [List.filter_singleton]
    simp only [Nat.lt_succ_of_le hversion, decide_true, cond_true]
    exact replayCommits_append hreplay actions
  · simp only [readParts, hok, hnone, Bool.false_eq_true, if_false, List.getLast?_nil]
    rw [if_neg (by simp)]
    exact replayCommits_append hreplay actions

/-- After a first commit the log says what its actions make of nothing. -/
theorem read_put_first_commit (h : read tree place = .absent) (actions : List Action) :
    read (tree.put (commitPath place 0) (.file (.commit actions))) place =
      ofContents (Contents.empty.replay actions) 0 := by
  have hzero : 0 < digitsLimit := by decide
  have hparts : checkpoints tree place = [] ∧ commits tree place = [] ∧
      ((tree.content? (pointerPath place)).any fun content => !content.isPointer) = false := by
    rw [read_eq] at h
    exact readParts_eq_absent_iff.mp h
  obtain ⟨hcheckpoints, hcommits, hpointer⟩ := hparts
  rw [read_eq, content?_put_of_ne commitPath_ne_nil (commitPath_ne_pointerPath place 0).symm,
    checkpoints_put_of_ne commitPath_ne_nil
      fun version hv => (commitPath_ne_checkpointPath place hzero hv).symm,
    commits_put_commit hzero (by simp [hcommits]), hcheckpoints, hcommits]
  simp [readParts, hpointer, replayCommits, isContiguous, Content.actions?]

/-- A checkpoint of the snapshot that the log gives changes nothing in the reading. -/
theorem read_put_checkpoint (h : read tree place = .table snapshot) :
    read (tree.put (checkpointPath place snapshot.version) (.file (.checkpoint snapshot))) place =
      .table snapshot := by
  obtain ⟨hversion, hcheckpoints, hcommits, hlost⟩ := isLatest_of_read_eq_table h
  rw [read_eq, readParts_eq_table_iff] at h
  rw [read_eq, readParts_eq_table_iff,
    content?_put_of_ne checkpointPath_ne_nil (checkpointPath_ne_pointerPath place _).symm,
    commits_put_of_ne checkpointPath_ne_nil
      fun version hv => commitPath_ne_checkpointPath place hv hversion]
  refine ⟨h.1, Or.inl ⟨_, _, getLast?_checkpoints_put hversion hcheckpoints _, ?_⟩⟩
  have hnone : ((commits tree place).filter fun commit => snapshot.version < commit.1) = [] :=
    List.filter_eq_nil_iff.mpr fun commit hc => by simpa using hcommits commit hc
  rw [hnone]
  exact ofContents_eq_table_iff.mpr ⟨rfl, rfl, hlost⟩

/-- A pointer changes nothing in the reading of a table. -/
theorem read_put_pointer (h : read tree place = .table snapshot) (version : Nat) :
    read (tree.put (pointerPath place) (.file (.pointer version))) place = .table snapshot := by
  rw [read_eq, readParts_eq_table_iff] at h
  rw [read_eq, readParts_eq_table_iff,
    commits_put_of_ne pointerPath_ne_nil fun version _ => commitPath_ne_pointerPath place version,
    checkpoints_put_of_ne pointerPath_ne_nil
      fun version _ => checkpointPath_ne_pointerPath place version]
  exact ⟨by simp [content?, find?_put, Entry.content?, Content.isPointer], h.2⟩

/-- A new commit makes a difference. -/
theorem commits_ne (hversion : version < digitsLimit)
    (hbefore : before.find? (commitPath place version) = none)
    (hafter : after.find? (commitPath place version) = some (.file content)) :
    commits after place ≠ commits before place := by
  intro heq
  have hmem : (version, content) ∈ commits after place := mem_commits_iff.mpr ⟨hversion, hafter⟩
  rw [heq, mem_commits_iff, hbefore] at hmem
  exact absurd hmem.2 nofun

end Log

/-- A growth adds no file to the log. -/
theorem Growth.find?_log_iff {place : Location} {onTheWay : Location → Prop}
    {before after : FileTree Content} (h : Growth place onTheWay before after) (name : String)
    (content : Content) :
    after.find? (Log.directory place ++ [name]) = some (.file content) ↔
      before.find? (Log.directory place ++ [name]) = some (.file content) := by
  refine ⟨fun hafter => ?_, h.kept⟩
  cases hbefore : before.find? (Log.directory place ++ [name]) with
  | some entry => rw [← hafter, h.kept hbefore]
  | none =>
    rcases h.added hbefore hafter with ⟨hentry, -⟩ | ⟨path, rows, heq, hpath, -⟩
    · cases hentry
    · exact absurd heq.symm hpath.append_ne_log

/-- A growth changes nothing in what the log says. -/
theorem Growth.read_eq {place : Location} {onTheWay : Location → Prop}
    {before after : FileTree Content} (h : Growth place onTheWay before after) :
    Log.read after place = Log.read before place :=
  Log.read_congr h.find?_log_iff

/-- What others do elsewhere changes nothing in what the log says. -/
theorem Table.Untouched.read_eq {place : Location} {before after : FileTree Content}
    (h : Untouched place before after) : Log.read after place = Log.read before place := by
  refine Log.read_congr fun name content => ?_
  rw [Log.directory, List.append_assoc, h]

/-- A growth adds no commit. -/
theorem Growth.commits_eq {place : Location} {onTheWay : Location → Prop}
    {before after : FileTree Content} (h : Growth place onTheWay before after) :
    Log.commits after place = Log.commits before place := by
  refine Log.eq_of_mem_iff (Log.pairwise_commits after place) (Log.pairwise_commits before place)
    fun version content => ?_
  rw [Log.mem_commits_iff, Log.mem_commits_iff, Log.commitPath, h.find?_log_iff]

end LogTable
