import LogTable.Proofs.Table.Deletion
import Mathlib.Data.Multiset.Filter

/-!
# Plain tables

A `PlainTable` is what a table amounts to for its users: a version and rows in no order.  `Holds`
says that the log and the data files at a place hold a plain table, or none.  What the operations
do to the files (`Appended`, `Deleted`, `Checkpointed`, `Growth`) is carried over to plain tables
here, one lemma for each: `Holds.of_appended`, `Holds.of_deleted`, `Holds.of_checkpointed` and
`Holds.of_growth`.
-/

namespace LogTable

open FileTree Predicate

/-- A table as a version and rows in no order. -/
structure PlainTable where
  version : Nat
  rows : Multiset Row

namespace PlainTable

/-- The version that comes next; the first version is zero. -/
def nextVersion : Option PlainTable → Nat
  | none => 0
  | some table => table.version + 1

/-- The rows of a table; there are none without a table. -/
def rowsOf : Option PlainTable → Multiset Row
  | none => 0
  | some table => table.rows

/-- A table with further rows as its next version; without a table they are the first version. -/
def append (rows : List Row) (state : Option PlainTable) : PlainTable where
  version := nextVersion state
  rows := rowsOf state + rows

@[simp] theorem nextVersion_append (rows : List Row) (state : Option PlainTable) :
    nextVersion (some (append rows state)) = nextVersion state + 1 := rfl

@[simp] theorem rowsOf_append (rows : List Row) (state : Option PlainTable) :
    rowsOf (some (append rows state)) = rowsOf state + rows := rfl

/-- A table without the rows that pass a test, as its next version if there are any. -/
def delete (test : Row → Bool) (table : PlainTable) : PlainTable where
  version := if table.rows.countP (test ·) = 0 then table.version else table.version + 1
  rows := table.rows.filter fun row => !test row

/-- Without rows that pass the test a table stays as it is. -/
theorem delete_of_forall {test : Row → Bool} {table : PlainTable}
    (h : ∀ row ∈ table.rows, test row = false) : table.delete test = table := by
  have hnone : table.rows.countP (test ·) = 0 :=
    Multiset.countP_eq_zero.mpr fun row hrow => by simp [h row hrow]
  have hrows : (table.rows.filter fun row => !test row) = table.rows :=
    Multiset.filter_eq_self.mpr fun row hrow => by simp [h row hrow]
  rw [delete, if_pos hnone, hrows]

/-- A row either passes the test or stays. -/
theorem card_rows_delete (test : Row → Bool) (table : PlainTable) :
    (table.delete test).rows.card + table.rows.countP (test ·) = table.rows.card := by
  rw [Multiset.card_eq_countP_add_countP (fun row => test row = true) table.rows, Nat.add_comm,
    delete, ← Multiset.countP_eq_card_filter]
  simp

end PlainTable

/-- The log at a place and the data files that it names hold a plain table, or no table. -/
def Holds (tree : FileTree Content) (place : Location) : Option PlainTable → Prop
  | none => Log.read tree place = .absent
  | some table => ∃ snapshot, Log.read tree place = .table snapshot ∧
      snapshot.IsStored tree place ∧ snapshot.version = table.version ∧
      (snapshot.rows tree place : Multiset Row) = table.rows

namespace Holds

variable {before after : FileTree Content} {place : Location} {onTheWay : Location → Prop}
  {state : Option PlainTable}

/-- The table that a log says is the plain table at its place. -/
theorem of_read_eq_table {tree : FileTree Content} {snapshot : Snapshot}
    (h : Holds tree place state) (hread : Log.read tree place = .table snapshot) :
    ∃ table, state = some table ∧ snapshot.IsStored tree place ∧
      snapshot.version = table.version ∧
      (snapshot.rows tree place : Multiset Row) = table.rows := by
  cases state with
  | none => exact absurd (hread.symm.trans h) nofun
  | some table =>
    obtain ⟨snapshot', hread', hstored⟩ := h
    obtain rfl : snapshot' = snapshot := LogReading.table.inj (hread'.symm.trans hread)
    exact ⟨table, rfl, hstored⟩

/-- The rows that are read at a place are those of the plain table. -/
theorem of_rows?_eq_some {tree : FileTree Content} {snapshot : Snapshot} {rows : List Row}
    (h : Holds tree place state) (hread : Log.read tree place = .table snapshot)
    (hrows : snapshot.rows? tree place = some rows) :
    ∃ table, state = some table ∧ snapshot.version = table.version ∧
      (rows : Multiset Row) = table.rows := by
  obtain ⟨table, rfl, hstored, hversion, hplain⟩ := h.of_read_eq_table hread
  obtain rfl := Option.some.inj (hstored.rows?_eq_some.symm.trans hrows)
  exact ⟨table, rfl, hversion, hplain⟩

/-- The rows of a plain table can be read. -/
theorem exists_rows?_eq_some {tree : FileTree Content} {table : PlainTable}
    (h : Holds tree place (some table)) :
    ∃ snapshot rows, Log.read tree place = .table snapshot ∧
      snapshot.rows? tree place = some rows := by
  obtain ⟨snapshot, hread, hstored, -⟩ := h
  exact ⟨snapshot, _, hread, hstored.rows?_eq_some⟩

/-- The plain table at a place is still there, as long as the log says the same and data files are
kept. -/
theorem of_kept (h : Holds before place state)
    (hread : Log.read after place = Log.read before place)
    (hkept : ∀ path rows, IsDataPath path →
      before.find? (place ++ path) = some (.file (.rows rows)) →
      after.find? (place ++ path) = some (.file (.rows rows))) : Holds after place state := by
  cases state with
  | none => exact hread.trans h
  | some table =>
    obtain ⟨snapshot, hsnapshot, hstored, hversion, hrows⟩ := h
    obtain ⟨hstored', hrows'⟩ := hstored.of_kept hkept
    exact ⟨snapshot, hread.trans hsnapshot, hstored', hversion, by rw [hrows', hrows]⟩

/-- A growth adds nothing to a plain table. -/
theorem of_growth (h : Holds before place state) (hgrowth : Growth place onTheWay before after) :
    Holds after place state :=
  h.of_kept hgrowth.read_eq fun _ _ _ hfind => hgrowth.kept hfind

/-- What others do elsewhere adds nothing to a plain table. -/
theorem of_untouched (h : Holds before place state)
    (huntouched : Table.Untouched place before after) : Holds after place state := by
  refine h.of_kept huntouched.read_eq fun path _ _ hfind => ?_
  rw [huntouched, hfind]

end Holds

/-! ### Versions -/

/-- The files that a deletion adds come last, and the ones that it removes are gone. -/
theorem Contents.replay_deletion (contents : Contents) (files removed : List DataFile) :
    contents.replay (files.map .add ++ removed.map fun file => .remove file.path) =
      { contents with files :=
          (contents.files ++ files).filter fun file => file.path ∉ removed.map DataFile.path } := by
  have hremoves : (removed.map fun file => Action.remove file.path) =
      (removed.map DataFile.path).map .remove := by
    rw [List.map_map]
    rfl
  rw [replay_append, replay_map_add, hremoves, replay_map_remove]

/-- The live files of a table after a deletion: the new ones come last, and the removed ones are
gone. -/
theorem Snapshot.replay_deletion {snapshot : Snapshot} {files : List DataFile}
    {hit : DataFile → Bool}
    (hnodup : (snapshot.files.map DataFile.path).Nodup)
    (hfresh : ∀ old ∈ snapshot.files, ∀ file ∈ files, old.path ≠ file.path) :
    snapshot.contents.replay
        (files.map .add ++ (snapshot.files.filter hit).map fun file => .remove file.path) =
      ⟨some snapshot.partitionBy, (snapshot.files.filter fun file => !hit file) ++ files⟩ := by
  have hold : (snapshot.files.filter fun file =>
      file.path ∉ (snapshot.files.filter hit).map DataFile.path) =
      snapshot.files.filter fun file => !hit file := by
    refine List.filter_congr fun file hfile => ?_
    rw [Bool.eq_iff_iff, decide_eq_true_eq, Bool.not_eq_true', ← Bool.not_eq_true, not_iff_not,
      List.mem_map]
    constructor
    · rintro ⟨other, hother, hpath⟩
      obtain ⟨hmem, hhit⟩ := List.mem_filter.mp hother
      rwa [← List.inj_on_of_nodup_map hnodup hmem hfile hpath]
    · exact fun hhit => ⟨file, List.mem_filter.mpr ⟨hfile, hhit⟩, rfl⟩
  have hnew : (files.filter fun file =>
      file.path ∉ (snapshot.files.filter hit).map DataFile.path) = files := by
    rw [List.filter_eq_self]
    intro file hfile
    rw [decide_eq_true_eq, List.mem_map]
    rintro ⟨old, hold, hpath⟩
    exact hfresh old (List.mem_of_mem_filter hold) file hfile hpath
  rw [Contents.replay_deletion]
  simp only [Snapshot.contents, List.filter_append, hold, hnew]

/-- A deletion keeps the partition columns of a table. -/
theorem Table.Deleted.partitionBy_eq [Engine] {before after : FileTree Content} {place : Location}
    {onTheWay : Location → Prop} {predicate : String} {outcome : DeleteOutcome}
    {snapshot next : Snapshot} (h : Deleted place onTheWay predicate outcome before after)
    (hbefore : Log.read before place = .table snapshot)
    (hafter : Log.read after place = .table next) : next.partitionBy = snapshot.partitionBy := by
  obtain ⟨snapshot', -, -, deletion, hread, -, -, -, -, hcarried⟩ := h
  obtain rfl := LogReading.table.inj (hread.symm.trans hbefore)
  rcases hcarried with ⟨-, -, hgrowth⟩ | ⟨-, hnext, files, hwrites⟩
  · rw [hgrowth.read_eq, hread] at hafter
    rw [LogReading.table.inj hafter]
  · rw [hnext] at hwrites
    rw [hwrites.read_of_table hread, Log.ofContents_eq_table_iff,
      Contents.replay_deletion] at hafter
    exact (Option.some.inj (congrArg Contents.partitionBy hafter.1)).symm

/-- A version that keeps some of the live files and adds data files for some rows leads to the plain
table with the rows of both. -/
theorem Writes.holds {before after : FileTree Content} {place : Location}
    {onTheWay : Location → Prop} {snapshot : Snapshot} {version : Nat} {newRows : List Row}
    {kept files : List DataFile} {actions : List Action}
    (hwrites : Writes place onTheWay version
      (Partition.groups snapshot.partitionBy.eraseDups newRows) files actions before after)
    (hstored : snapshot.IsStored before place) (hkept : kept.Sublist snapshot.files)
    (hread : Log.read after place =
      Log.ofContents ⟨some snapshot.partitionBy, kept ++ files⟩ version)
    (hlost : (kept ++ files).any Log.hasLostValue = false) {rows : Multiset Row}
    (hrows : (kept.flatMap (DataFile.rows before place) ++ newRows : Multiset Row) = rows) :
    Holds after place (some ⟨version, rows⟩) := by
  obtain ⟨hstored', hperm⟩ := hstored.add hkept hwrites
  refine ⟨⟨version, snapshot.partitionBy, kept ++ files⟩, ?_, hstored', rfl, ?_⟩
  · rw [hread, Log.ofContents_eq_table_iff]
    exact ⟨rfl, rfl, hlost⟩
  · rw [← hrows]
    exact Multiset.coe_eq_coe.mpr hperm

namespace Holds

variable {before after : FileTree Content} {place : Location} {onTheWay : Location → Prop}
  {state : Option PlainTable}

/-- An append without lost values appends the rows to the plain table. -/
theorem of_appended (h : Holds before place state) {partitionBy : List String} {rows : List Row}
    {version : Nat}
    (happended : Table.Appended place onTheWay partitionBy rows version false before after) :
    version = (PlainTable.append rows state).version ∧
      Holds after place (some (PlainTable.append rows state)) := by
  obtain ⟨actions, columns, files, happends, hwrites, hlost⟩ := happended
  cases state with
  | none =>
    have habsent : Log.read before place = .absent := h
    rw [habsent] at happends
    cases happends with
    | first hcolumns =>
      have hstored : Snapshot.IsStored before place ⟨0, columns, []⟩ :=
        ⟨List.nodup_nil, nofun, nofun⟩
      refine ⟨rfl, hwrites.holds hstored (List.Sublist.refl []) ?_ hlost rfl⟩
      rw [hwrites.read_of_absent habsent, List.singleton_append, Contents.replay_cons,
        Contents.replay_map_add]
      rfl
  | some table =>
    obtain ⟨snapshot, hread, hstored, hversion, hrows⟩ := h
    rw [hread] at happends
    cases happends with
    | next hadmits =>
      rw [PlainTable.append, PlainTable.nextVersion, PlainTable.rowsOf, ← hversion]
      refine ⟨rfl, hwrites.holds hstored (List.Sublist.refl _) ?_ ?_ ?_⟩
      · rw [hwrites.read_of_table hread, List.nil_append, Contents.replay_map_add]
        rfl
      · rw [List.any_append, (Log.isLatest_of_read_eq_table hread).not_hasLostValue, hlost]
        rfl
      · rw [← hrows]
        rfl

/-- A deletion deletes from the plain table the rows of which the predicate is true. -/
theorem of_deleted [Engine] (h : Holds before place state) {predicate : String}
    {outcome : DeleteOutcome}
    (hdeleted : Table.Deleted place onTheWay predicate outcome before after) :
    ∃ table condition, state = some table ∧ Engine.read? predicate = some condition ∧
      outcome.version = (table.delete (Engine.isTrueOf condition)).version ∧
      Holds after place (some (table.delete (Engine.isTrueOf condition))) := by
  obtain ⟨snapshot, condition, middle, deletion, hread, hcondition, hgrowth, hdeletion, -,
    hcarried⟩ := hdeleted
  obtain ⟨table, rfl, hstored, hversion, hrows⟩ := h.of_read_eq_table hread
  have hkept : ∀ path rows, IsDataPath path →
      before.find? (place ++ path) = some (.file (.rows rows)) →
      middle.find? (place ++ path) = some (.file (.rows rows)) :=
    fun _ _ _ hfind => hgrowth.kept hfind
  have hexact : deletion.IsExact before place snapshot condition :=
    (Deletion.isExact (hstored.of_kept hkept).1 hdeletion).of_rows_eq
      (hstored.rows_eq_of_kept hkept)
  have hcount : (table.rows.countP (Engine.isTrueOf condition ·)) = 0 ↔ deletion.removed = [] := by
    rw [hexact.removed_eq_nil_iff, ← hrows, Multiset.countP_eq_zero]
    simp
  refine ⟨table, condition, rfl, hcondition, ?_⟩
  rcases hcarried with ⟨hnone, hsame, hgrowth'⟩ | ⟨hsome, hnext, files, hwrites⟩
  · have hdelete : table.delete (Engine.isTrueOf condition) = table := by
      refine PlainTable.delete_of_forall fun row hrow => ?_
      simpa using Multiset.countP_eq_zero.mp (hcount.mpr hnone) row hrow
    rw [hdelete, hsame, hversion]
    exact ⟨rfl, h.of_growth hgrowth'⟩
  · rw [PlainTable.delete, if_neg fun h => hsome (hcount.mp h), ← hversion]
    refine ⟨hnext, ?_⟩
    rw [hnext] at hwrites
    have hlost := (Log.isLatest_of_read_eq_table hread).not_hasLostValue
    refine hwrites.holds hstored (List.filter_sublist (p := fun file =>
      !(file.rows before place).any (Engine.isTrueOf condition))) ?_ ?_ ?_
    · rw [hwrites.read_of_table hread, hexact.removed, Snapshot.replay_deletion hstored.nodup
        fun _ hold _ hfile => hstored.path_ne hwrites hold hfile]
    · rw [List.any_append, Bool.or_eq_false_iff]
      refine ⟨List.any_eq_false.mpr fun file hfile =>
        List.any_eq_false.mp hlost file (List.mem_of_mem_filter hfile),
        hstored.not_hasLostValue hwrites (fun row hrow => ?_) hlost⟩
      exact hexact.exists_of_mem_kept hrow
    · rw [← hrows]
      refine Multiset.coe_eq_coe.mpr (hexact.rows_perm.trans ?_)
      simp

/-- The number that a deletion gives is that of the rows that it deletes, unless the predicate
mentions partition columns only: then no rows are counted. -/
theorem rowsDeleted_of_deleted [Engine] {table : PlainTable} (h : Holds before place (some table))
    {predicate : String} {outcome : DeleteOutcome}
    (hdeleted : Table.Deleted place onTheWay predicate outcome before after) :
    ∃ snapshot condition, Log.read before place = .table snapshot ∧
      Engine.read? predicate = some condition ∧
      outcome.rowsDeleted =
        if Deletion.isOnPartitions snapshot condition then 0
        else table.rows.countP (Engine.isTrueOf condition ·) := by
  obtain ⟨snapshot, condition, middle, deletion, hread, hcondition, hgrowth, hdeletion, hcount,
    -⟩ := hdeleted
  obtain ⟨table', heq, hstored, -, hrows⟩ := h.of_read_eq_table hread
  obtain rfl := Option.some.inj heq
  obtain ⟨hstored', hrows'⟩ := hstored.of_kept fun _ _ _ hfind => hgrowth.kept hfind
  refine ⟨snapshot, condition, hread, hcondition, ?_⟩
  rw [hcount, Deletion.rowsDeleted_eq hstored' hdeletion, hrows', ← hrows, Multiset.coe_countP]
  simp

/-- A file that is put into the log leaves a plain table as it is if the log still says the same. -/
theorem put_log (h : Holds before place state) {name : String} {entry : Entry Content}
    (hread : Log.read (before.put (Log.directory place ++ [name]) entry) place =
      Log.read before place) :
    Holds (before.put (Log.directory place ++ [name]) entry) place state := by
  refine h.of_kept hread fun path rows hpath hfind => ?_
  rw [find?_put _ _ _ (by simp), if_neg hpath.append_ne_log, hfind]

/-- A checkpoint leaves a plain table as it is. -/
theorem of_checkpointed (h : Holds before place state) {snapshot : Snapshot} {pointed : Bool}
    (hcheckpointed : Table.Checkpointed place onTheWay snapshot pointed before after) :
    Holds after place state := by
  obtain ⟨hread, -, -, middle, hreadOnly, rfl⟩ := hcheckpointed
  have hmiddle : Log.read middle place = .table snapshot :=
    hreadOnly.1.read_eq.trans hread
  have hwritten := Log.read_put_checkpoint hmiddle
  have hholds := (h.of_growth hreadOnly.1).put_log (hwritten.trans hmiddle.symm)
  cases pointed with
  | false => exact hholds
  | true => exact hholds.put_log ((Log.read_put_pointer hwritten _).trans hwritten.symm)

/-- An append that loses a value leaves a log that cannot be read. -/
theorem read_of_appended_lost {partitionBy : List String} {rows : List Row} {version : Nat}
    (happended : Table.Appended place onTheWay partitionBy rows version true before after) :
    Log.read after place = .damaged := by
  obtain ⟨actions, columns, files, happends, hwrites, hlost⟩ := happended
  generalize hread : Log.read before place = reading at happends
  cases happends with
  | first hcolumns =>
    rw [hwrites.read_of_absent hread, List.singleton_append, Contents.replay_cons,
      Contents.replay_map_add]
    simp [Log.ofContents, Contents.apply, Contents.empty, hlost]
  | next hadmits =>
    rw [hwrites.read_of_table hread, List.nil_append, Contents.replay_map_add]
    simp [Log.ofContents, Snapshot.contents, hlost]

end Holds

end LogTable
