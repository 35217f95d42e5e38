import LogTable.Proofs.Table.Reached

/-!
# Complete logs

A log is complete if its commits run from version zero on without a gap, and its reading is what all
of them amount to, whatever checkpoints there are (`Log.IsComplete`).  If a complete log cannot be
read, one of its commits has added a data file that has lost a value.  Whatever is done to a table
keeps its log complete (`Table.isInvariant_isInOrder`), together with the files that it speaks of
(`Table.IsInOrder`).
-/

namespace LogTable

open FileTree Predicate

namespace Log

variable {before after tree : FileTree Content} {place : Location} {onTheWay : Location → Prop}

/-- The reading of a log if there were no checkpoints: all commits are replayed. -/
def replayed (tree : FileTree Content) (place : Location) : LogReading :=
  readParts none [] (commits tree place)

/-- A commit of the log adds a data file with a value that its column does not admit. -/
def LosesValue (tree : FileTree Content) (place : Location) : Prop :=
  ∃ version actions file, (version, Content.commit actions) ∈ commits tree place ∧
    Action.add file ∈ actions ∧ hasLostValue file = true

/-- The commits run from version zero on without a gap, and the log says what they amount to. -/
structure IsComplete (tree : FileTree Content) (place : Location) : Prop where
  versions : (commits tree place).map Prod.fst = List.range (commits tree place).length
  read_eq : read tree place = replayed tree place
  losesValue : read tree place = .damaged → LosesValue tree place

/-- A log without a table has no commits. -/
theorem commits_of_read_eq_absent (h : read tree place = .absent) : commits tree place = [] := by
  rw [Log.read_eq, readParts_eq_absent_iff] at h
  exact h.2.1

/-- The log of no table is complete. -/
theorem isComplete_of_absent (h : read tree place = .absent) : IsComplete tree place where
  versions := by rw [commits_of_read_eq_absent h]; rfl
  read_eq := by rw [h, replayed, commits_of_read_eq_absent h]; rfl
  losesValue hdamaged := by rw [h] at hdamaged; cases hdamaged

namespace IsComplete

/-- The commits of a table are one more than its version. -/
theorem length_commits {snapshot : Snapshot} (h : IsComplete tree place)
    (hread : read tree place = .table snapshot) :
    (commits tree place).length = snapshot.version + 1 := by
  have hreplayed : replayed tree place = .table snapshot := h.read_eq.symm.trans hread
  obtain ⟨-, ⟨_, _, hnone, -⟩ | ⟨-, hne, hreplay⟩⟩ := readParts_eq_table_iff.mp hreplayed
  · cases hnone
  obtain ⟨-, -, hlast, -⟩ := replayCommits_eq_table_iff.mp hreplay
  have hpos : 0 < (commits tree place).length := List.length_pos_of_ne_nil hne
  rw [← List.getLast?_map, h.versions, List.getLast?_range, if_neg (by omega)] at hlast
  simp only [Option.getD_some] at hlast
  omega

/-- A log stays complete as long as it has the same commits and the same reading. -/
theorem of_eq (h : IsComplete before place) (hcommits : commits after place = commits before place)
    (hread : read after place = read before place) : IsComplete after place where
  versions := by rw [hcommits, h.versions]
  read_eq := by rw [hread, h.read_eq, replayed, replayed, hcommits]
  losesValue hdamaged := by
    rw [hread] at hdamaged
    simpa only [LosesValue, hcommits] using h.losesValue hdamaged

end IsComplete

end Log

/-- A version that comes after all others is the last of the commits. -/
theorem Writes.commits_eq {before after : FileTree Content} {place : Location}
    {onTheWay : Location → Prop} {version : Nat} {groups : List (PartitionValues × List Row)}
    {files : List DataFile} {actions : List Action}
    (h : Writes place onTheWay version groups files actions before after)
    (hlast : ∀ commit ∈ Log.commits before place, commit.1 < version) :
    Log.commits after place = Log.commits before place ++ [(version, .commit actions)] := by
  have hversion := h.version_lt
  obtain ⟨-, middle, hgrowth, -, hcommitted⟩ := h
  rw [hcommitted.eq_put, ← hgrowth.commits_eq]
  refine Log.commits_put_commit hversion (fun commit hcommit => hlast commit ?_) _
  rwa [← hgrowth.commits_eq]

namespace Log.IsComplete

variable {before after : FileTree Content} {place : Location} {onTheWay : Location → Prop}
  {groups : List (PartitionValues × List Row)} {files : List DataFile} {actions : List Action}

/-- A log with one more commit is complete, if what it says follows from its commits. -/
theorem of_commit {version : Nat} (h : IsComplete before place)
    (hlength : (commits before place).length = version)
    (hcommits : commits after place = commits before place ++ [(version, .commit actions)])
    (hread : read after place = replayCommits .empty 0 (commits after place))
    (hlost : read after place = .damaged → ∃ file, .add file ∈ actions ∧ hasLostValue file = true) :
    IsComplete after place where
  versions := by
    rw [hcommits, List.map_append, h.versions, hlength, List.length_append, hlength]
    exact List.range_succ.symm
  read_eq := by
    rw [hread, replayed, readParts]
    simp [hcommits]
  losesValue hdamaged := by
    obtain ⟨file, hfile, hvalue⟩ := hlost hdamaged
    exact ⟨version, actions, file, by simp [hcommits], hfile, hvalue⟩

/-- The next version of a table leaves a complete log. -/
theorem of_next {snapshot : Snapshot} (h : IsComplete before place)
    (hread : read before place = .table snapshot)
    (hwrites : Writes place onTheWay (snapshot.version + 1) groups files actions before after)
    (hlost : read after place = .damaged → ∃ file, .add file ∈ actions ∧ hasLostValue file = true) :
    IsComplete after place := by
  have hcommits := hwrites.commits_eq fun commit hcommit =>
    Nat.lt_succ_of_le ((isLatest_of_read_eq_table hread).commits_le commit hcommit)
  refine h.of_commit (h.length_commits hread) hcommits ?_ hlost
  have hreplayed : replayed before place = .table snapshot := h.read_eq.symm.trans hread
  obtain ⟨-, ⟨_, _, hnone, -⟩ | ⟨-, -, hreplay⟩⟩ := readParts_eq_table_iff.mp hreplayed
  · cases hnone
  rw [hwrites.read_of_table hread, hcommits, replayCommits_append hreplay]

/-- The first version leaves a complete log. -/
theorem of_first (h : IsComplete before place) (hread : read before place = .absent)
    (hwrites : Writes place onTheWay 0 groups files actions before after)
    (hlost : read after place = .damaged → ∃ file, .add file ∈ actions ∧ hasLostValue file = true) :
    IsComplete after place := by
  have hnone := commits_of_read_eq_absent hread
  have hcommits := hwrites.commits_eq fun commit hcommit => by simp [hnone] at hcommit
  refine h.of_commit (by rw [hnone]; rfl) hcommits ?_ hlost
  rw [hwrites.read_of_absent hread, hcommits, hnone]
  simp [replayCommits, isContiguous, Content.actions?]

end Log.IsComplete

/-! ### Places in order -/

/-- The log of a plain table can be read. -/
theorem Holds.read_ne_damaged {tree : FileTree Content} {place : Location}
    {state : Option PlainTable} (h : Holds tree place state) :
    Log.read tree place ≠ .damaged := by
  cases state with
  | none => rw [show Log.read tree place = .absent from h]; nofun
  | some plain =>
    obtain ⟨snapshot, hread, -⟩ := h
    rw [hread]
    nofun

namespace Table

variable {before after : FileTree Content} {place : Location} {onTheWay : Location → Prop}

/-- The place is settled, and its log is complete. -/
structure IsInOrder (tree : FileTree Content) (place : Location) : Prop where
  settled : IsSettled tree place
  complete : Log.IsComplete tree place

/-- An append leaves a complete log, also if it loses a value. -/
theorem Appended.isComplete {partitionBy : List String} {rows : List Row} {version : Nat}
    {lost : Bool} (h : Log.IsComplete before place)
    (happended : Appended place onTheWay partitionBy rows version lost before after)
    (hsettled : lost = false → Log.read after place ≠ .damaged) : Log.IsComplete after place := by
  obtain ⟨actions, columns, files, happends, hwrites, hlost⟩ := happended
  have hvalue : Log.read after place = .damaged →
      ∃ file, .add file ∈ actions ++ files.map Action.add ∧ Log.hasLostValue file = true := by
    intro hdamaged
    cases lost with
    | false => exact absurd hdamaged (hsettled rfl)
    | true =>
      obtain ⟨file, hfile, hvalue⟩ := List.any_eq_true.mp hlost
      exact ⟨file, List.mem_append_right _ (List.mem_map_of_mem hfile), hvalue⟩
  generalize hread : Log.read before place = reading at happends
  cases happends with
  | first _ => exact h.of_first hread hwrites hvalue
  | next _ => exact h.of_next hread hwrites hvalue

/-- A deletion leaves a complete log. -/
theorem Deleted.isComplete [Engine] {predicate : String} {outcome : DeleteOutcome}
    (h : Log.IsComplete before place)
    (hdeleted : Deleted place onTheWay predicate outcome before after)
    (hafter : Log.read after place ≠ .damaged) : Log.IsComplete after place := by
  obtain ⟨snapshot, condition, middle, deletion, hread, -, -, -, -, hcarried⟩ := hdeleted
  rcases hcarried with ⟨-, -, hgrowth⟩ | ⟨-, hnext, files, hwrites⟩
  · exact h.of_eq hgrowth.commits_eq hgrowth.read_eq
  · rw [hnext] at hwrites
    exact h.of_next hread hwrites fun hdamaged => absurd hdamaged hafter

/-- A checkpoint adds no commit. -/
theorem Checkpointed.commits_eq {snapshot : Snapshot} {pointed : Bool}
    (h : Checkpointed place onTheWay snapshot pointed before after) :
    Log.commits after place = Log.commits before place := by
  obtain ⟨hread, -, -, middle, hreadOnly, rfl⟩ := h
  have hversion := (Log.isLatest_of_read_eq_table hread).version_lt
  have hwritten : Log.commits (middle.put (Log.checkpointPath place snapshot.version)
      (.file (.checkpoint snapshot))) place = Log.commits middle place :=
    Log.commits_put_of_ne Log.checkpointPath_ne_nil fun _ hlt =>
      Log.commitPath_ne_checkpointPath place hlt hversion
  rw [← hreadOnly.1.commits_eq, ← hwritten]
  cases pointed with
  | false => rfl
  | true =>
    exact Log.commits_put_of_ne Log.pointerPath_ne_nil fun _ _ =>
      Log.commitPath_ne_pointerPath place _

/-- After a checkpoint the log says what it has said before. -/
theorem Checkpointed.read_eq {snapshot : Snapshot} {pointed : Bool}
    (h : Checkpointed place onTheWay snapshot pointed before after) :
    Log.read after place = Log.read before place := by
  obtain ⟨hread, -, -, middle, hreadOnly, rfl⟩ := h
  have hwritten := Log.read_put_checkpoint (hreadOnly.1.read_eq.trans hread)
  rw [hread]
  cases pointed with
  | false => exact hwritten
  | true => exact Log.read_put_pointer hwritten _

/-- A place in order stays in order. -/
theorem isInvariant_isInOrder [Engine] (place : Location) (onTheWay : Location → Prop) :
    IsInvariant place onTheWay fun tree => IsInOrder tree place where
  of_absent habsent := ⟨Or.inl ⟨none, habsent⟩, Log.isComplete_of_absent habsent⟩
  of_growth h hgrowth :=
    ⟨h.settled.of_growth hgrowth, h.complete.of_eq hgrowth.commits_eq hgrowth.read_eq⟩
  of_appended {before after partitionBy rows version lost} h _ happended := by
    refine ⟨h.settled.of_appended happended, happended.isComplete h.complete ?_⟩
    rintro rfl
    rcases h.settled with ⟨state, hholds⟩ | hdamaged
    · exact (hholds.of_appended happended).2.read_ne_damaged
    · obtain ⟨actions, columns, files, happends, -, -⟩ := happended
      rw [hdamaged] at happends
      cases happends
  of_deleted {before after predicate outcome} h hdeleted := by
    refine ⟨h.settled.of_deleted hdeleted, hdeleted.isComplete h.complete ?_⟩
    obtain ⟨snapshot, -, -, -, hread, -⟩ := id hdeleted
    rcases h.settled with ⟨state, hholds⟩ | hdamaged
    · obtain ⟨table, condition, -, -, -, hafter⟩ := hholds.of_deleted hdeleted
      exact hafter.read_ne_damaged
    · exact absurd (hdamaged.symm.trans hread) nofun
  of_checkpointed h hcheckpointed := ⟨h.settled.of_checkpointed hcheckpointed,
    h.complete.of_eq hcheckpointed.commits_eq hcheckpointed.read_eq⟩

/-- The table that is read in a place in order has its data files on the machine. -/
theorem IsInOrder.isStored {tree : FileTree Content} {snapshot : Snapshot}
    (h : IsInOrder tree place) (hread : Log.read tree place = .table snapshot) :
    snapshot.IsStored tree place := by
  rcases h.settled with ⟨state, hholds⟩ | hdamaged
  · obtain ⟨-, -, hstored, -⟩ := hholds.of_read_eq_table hread
    exact hstored
  · exact absurd (hdamaged.symm.trans hread) nofun

end Table

end LogTable
