import LogTable.Predicate.Standard
import LogTable.Proofs.Table.State
import LogTable.Proofs.TableUri
import LogTable.Session

/-!
# Sessions refine plain tables

A `Session` is any sequence of appends, deletions, checkpoints, summaries and readings of one table,
with whatever others do elsewhere in between.  `PlainStep` says what a plain table answers to an
operation and what it becomes.  Each operation on a machine is such a step
(`Operation.exists_plainStep`), and so every session that starts without a table is a run of plain
tables (`Session.exists_plainRun`).
-/

namespace LogTable

open FileTree Predicate

/-! ### Operations -/

/-- What is done to a table. -/
inductive Operation where
  | append (rows : List Row) (partitionBy : List String)
  | delete (predicate : String)
  | checkpoint
  | summary
  | read

namespace Operation

/-- Carries out an operation on a table. -/
def run [Engine] (table : Table) : Operation → Run Answer
  | append rows partitionBy => return .version (← table.append rows partitionBy)
  | delete predicate => return .deleted (← table.delete predicate)
  | checkpoint => return .version (← table.checkpoint)
  | summary => return .summary (← table.summary)
  | read => return .rows (← table.readAll)

/-- If the operation is an append and fails, it fails before its commit. -/
def FailsEarly (place : Location) (before after : FileTree Content) :
    Operation → Except Failure Answer → Prop
  | append _ _, .error _ => Log.commits after place = Log.commits before place
  | _, _ => True

end Operation

/-- What a plain table answers to an operation, and what it becomes.  Appends and deletions may
fail, and a checkpoint if the place for its files is blocked; then the plain table stays as it is.
Summaries and readings of a table do not fail. -/
inductive PlainStep [Engine] (blocked : Nat → Prop) :
    Option PlainTable → Operation → Except Failure Answer → Option PlainTable → Prop where
  | append {state : Option PlainTable} {rows : List Row} {partitionBy : List String} :
    PlainStep blocked state (.append rows partitionBy)
      (.ok (.version (PlainTable.append rows state).version)) (some (PlainTable.append rows state))
  | delete {table : PlainTable} {predicate : String} {condition : Engine.Condition}
      {outcome : DeleteOutcome} (hcondition : Engine.read? predicate = some condition)
      (hversion : outcome.version = (table.delete (Engine.isTrueOf condition)).version) :
    PlainStep blocked (some table) (.delete predicate) (.ok (.deleted outcome))
      (some (table.delete (Engine.isTrueOf condition)))
  | checkpoint {table : PlainTable} :
    PlainStep blocked (some table) .checkpoint (.ok (.version table.version)) (some table)
  | summary {table : PlainTable} (files : Nat) :
    PlainStep blocked (some table) .summary
      (.ok (.summary ⟨table.version, table.rows.card, files⟩)) (some table)
  | read {table : PlainTable} {rows : List Row} (hrows : (rows : Multiset Row) = table.rows) :
    PlainStep blocked (some table) .read (.ok (.rows rows)) (some table)
  | appendFailed {state : Option PlainTable} {rows : List Row} {partitionBy : List String}
      (failure : Failure) :
    PlainStep blocked state (.append rows partitionBy) (.error failure) state
  | deleteFailed {state : Option PlainTable} {predicate : String} (failure : Failure) :
    PlainStep blocked state (.delete predicate) (.error failure) state
  | checkpointFailed {table : PlainTable} (hblocked : blocked table.version) :
    PlainStep blocked (some table) .checkpoint (.error (.fault .checkpoint)) (some table)
  | noTable {operation : Operation} (failure : Failure) :
    PlainStep blocked none operation (.error failure) none

/-! ### One operation -/

/-- A sound world holds a plain table, and readers get to it, or it holds none. -/
structure Table.Keeps (table : Table) (state : Option PlainTable) (world : World) : Prop where
  sound : world.IsSound
  holds : Holds world.tree (locate world.home table.uri) state
  isReady : state ≠ none → table.IsReady world

namespace Table.Keeps

variable {table : Table} {state : Option PlainTable} {world after : World}

/-- A change that keeps the directories, and the plain table in its place, keeps the plain table. -/
theorem of_changes {events : List Event} {change : FileTree Content → FileTree Content → Prop}
    (h : table.Keeps state world) (hchanges : world.Changes events change after)
    (hkept : ∀ l, world.tree.find? l = some .directory → after.tree.find? l = some .directory)
    (hholds : Holds after.tree (locate world.home table.uri) state) :
    table.Keeps state after where
  sound := hchanges.sound h.sound
  holds := hchanges.home ▸ hholds
  isReady hsome := (h.isReady hsome).of_kept hchanges.home hkept

/-- A growth keeps the plain table. -/
theorem of_growth {events : List Event} (h : table.Keeps state world)
    (hchanges : world.Changes events
      (Growth (locate world.home table.uri) (OnTheWay world.home table.uri)) after) :
    table.Keeps state after :=
  h.of_changes hchanges (fun _ hl => hchanges.tree.kept hl) (h.holds.of_growth hchanges.tree)

end Table.Keeps

/-- A checkpoint takes the place of no directory. -/
theorem Table.Checkpointed.kept {place : Location} {onTheWay : Location → Prop}
    {snapshot : Snapshot} {pointed : Bool} {before after : FileTree Content}
    (h : Checkpointed place onTheWay snapshot pointed before after) {l : Location}
    (hl : before.find? l = some .directory) : after.find? l = some .directory := by
  obtain ⟨-, hcheckpoint, hpointer, middle, hreadOnly, rfl⟩ := h
  have hne : ∀ path, before.isDirectory path = false → l ≠ path := by
    rintro path hpath rfl
    simp [isDirectory_eq_true.mpr hl] at hpath
  have hwritten : (middle.put (Log.checkpointPath place snapshot.version)
      (.file (.checkpoint snapshot))).find? l = some .directory := by
    rw [find?_put _ _ _ Log.checkpointPath_ne_nil, if_neg (hne _ hcheckpoint)]
    exact hreadOnly.1.kept hl
  cases pointed with
  | false => exact hwritten
  | true =>
    simp only [if_true]
    rw [find?_put _ _ _ Log.pointerPath_ne_nil, if_neg (hne _ hpointer), hwritten]

namespace Operation

variable {table : Table} {state : Option PlainTable} {world after : World}
  {operation : Operation} {answer : Except Failure Answer}

/-- A scan gives the version and the rows of the plain table, and fails only without one. -/
theorem scan_ensures (hkeeps : table.Keeps state world) :
    table.scan.Ensures world
      (fun answer after => after.home = world.home ∧ table.Keeps state after ∧
        ∃ plain, state = some plain ∧ answer.1.version = plain.version ∧
          (answer.2 : Multiset Row) = plain.rows)
      fun _ after => after.home = world.home ∧ table.Keeps state after ∧ state = none := by
  refine (table.scan_ensures world).mono ?_ ?_
  · rintro ⟨snapshot, rows⟩ after ⟨hchanges, -, hread, hrows⟩
    have hkept := hkeeps.of_growth (hchanges.mono And.left)
    exact ⟨hchanges.home, hkept, hkeeps.holds.of_rows?_eq_some hread hrows⟩
  · rintro _ after ⟨hchanges, hcause⟩
    have hkept := hkeeps.of_growth (hchanges.mono And.left)
    refine ⟨hchanges.home, hkept, ?_⟩
    cases state with
    | none => rfl
    | some plain =>
      obtain ⟨snapshot, rows, hread, hrows⟩ := hkeeps.holds.exists_rows?_eq_some
      exact absurd hrows (hcause snapshot rows (hkeeps.isReady nofun) hread)

variable [Engine]

/-- What it means that an operation is a step of plain tables. -/
def IsStep (table : Table) (state : Option PlainTable) (world : World) (operation : Operation)
    (answer : Except Failure Answer) (after : World) : Prop :=
  after.home = world.home ∧
    ∃ state', PlainStep (Table.IsBlocked world.tree (locate world.home table.uri)) state operation
      answer state' ∧ table.Keeps state' after

/-- An append that fails before its commit is a step, and so is one that succeeds. -/
theorem isStep_append (hkeeps : table.Keeps state world) (huri : table.uri ≠ "") (rows : List Row)
    (partitionBy : List String) :
    ((append rows partitionBy).run table).Ensures world
      (fun answer after => IsStep table state world (.append rows partitionBy) (.ok answer) after)
      fun failure after =>
        Log.commits after.tree (locate world.home table.uri) =
          Log.commits world.tree (locate world.home table.uri) →
        IsStep table state world (.append rows partitionBy) (.error failure) after := by
  refine Run.ensures_bind ((table.append_ensures rows partitionBy world).mono ?_ ?_)
  · rintro version after ⟨hchanges, -, hready⟩
    obtain ⟨rfl, hholds⟩ := hkeeps.holds.of_appended hchanges.tree
    exact Run.ensures_pure ⟨hchanges.home, _, .append, hchanges.sound hkeeps.sound,
      hchanges.home ▸ hholds, fun _ => hready hkeeps.sound huri⟩
  · rintro failure after hchanges hcommits
    have hgrowth : Growth (locate world.home table.uri) (Table.OnTheWay world.home table.uri)
        world.tree after.tree := by
      rcases hchanges.tree with hgrowth | ⟨version, actions, columns, files, -, hwrites, -⟩
      · exact hgrowth
      · exact absurd hcommits hwrites.commits_ne
    exact ⟨hchanges.home, state, .appendFailed failure,
      hkeeps.of_growth (hchanges.mono fun _ => hgrowth)⟩

/-- A deletion is a step. -/
theorem isStep_delete (hkeeps : table.Keeps state world) (huri : table.uri ≠ "")
    (predicate : String) :
    ((delete predicate).run table).Ensures world
      (fun answer after => IsStep table state world (.delete predicate) (.ok answer) after)
      fun failure after => IsStep table state world (.delete predicate) (.error failure) after := by
  refine Run.ensures_bind ((table.delete_ensures predicate world).mono ?_ ?_)
  · rintro outcome after ⟨hchanges, hready⟩
    obtain ⟨plain, condition, rfl, hcondition, hversion, hholds⟩ :=
      hkeeps.holds.of_deleted hchanges.tree
    exact Run.ensures_pure ⟨hchanges.home, _, .delete hcondition hversion,
      hchanges.sound hkeeps.sound, hchanges.home ▸ hholds, fun _ => hready hkeeps.sound huri⟩
  · rintro failure after hchanges
    exact ⟨hchanges.home, state, .deleteFailed failure, hkeeps.of_growth hchanges⟩

/-- A checkpoint is a step. -/
theorem isStep_checkpoint (hkeeps : table.Keeps state world) :
    (checkpoint.run table).Ensures world
      (fun answer after => IsStep table state world .checkpoint (.ok answer) after)
      fun failure after => IsStep table state world .checkpoint (.error failure) after := by
  refine Run.ensures_bind ((table.checkpoint_ensures world).mono ?_ ?_)
  · rintro version after ⟨snapshot, rfl, hchanges, -⟩
    obtain ⟨plain, rfl, -, hversion, -⟩ := hkeeps.holds.of_read_eq_table hchanges.tree.1
    rw [hversion]
    exact Run.ensures_pure ⟨hchanges.home, some plain, .checkpoint,
      hkeeps.of_changes hchanges (fun _ hl => hchanges.tree.kept hl)
        (hkeeps.holds.of_checkpointed hchanges.tree)⟩
  · rintro failure after ⟨hchanges, hcause⟩
    have hkept : table.Keeps state after := by
      rcases htree : hchanges.tree with hreadOnly | ⟨snapshot, hcheckpointed⟩
      · exact hkeeps.of_growth (hchanges.mono fun _ => hreadOnly.1)
      · exact hkeeps.of_changes hchanges (fun _ hl => hcheckpointed.kept hl)
          (hkeeps.holds.of_checkpointed hcheckpointed)
    refine ⟨hchanges.home, state, ?_, hkept⟩
    cases state with
    | none => exact .noTable failure
    | some plain =>
      obtain ⟨snapshot, hread, -, hversion, -⟩ := hkeeps.holds
      obtain ⟨rfl, hblocked⟩ := hcause snapshot (hkeeps.isReady nofun) hread
      exact .checkpointFailed (hversion ▸ hblocked)

/-- A summary is a step. -/
theorem isStep_summary (hkeeps : table.Keeps state world) :
    (summary.run table).Ensures world
      (fun answer after => IsStep table state world .summary (.ok answer) after)
      fun failure after => IsStep table state world .summary (.error failure) after := by
  refine Run.ensures_bind (Run.ensures_bind ((scan_ensures hkeeps).mono ?_ ?_))
  · rintro ⟨snapshot, rows⟩ after ⟨hhome, hkept, plain, rfl, hversion, hrows⟩
    refine Run.ensures_pure (Run.ensures_pure ⟨hhome, some plain, ?_, hkept⟩)
    have hcard : rows.length = plain.rows.card := by rw [← hrows, Multiset.coe_card]
    simp only at hversion
    rw [hversion, hcard]
    exact .summary snapshot.files.length
  · rintro failure after ⟨hhome, hkept, rfl⟩
    exact ⟨hhome, none, .noTable failure, hkept⟩

/-- A reading is a step. -/
theorem isStep_read (hkeeps : table.Keeps state world) :
    (read.run table).Ensures world
      (fun answer after => IsStep table state world .read (.ok answer) after)
      fun failure after => IsStep table state world .read (.error failure) after := by
  refine Run.ensures_bind (Run.ensures_bind ((scan_ensures hkeeps).mono ?_ ?_))
  · rintro ⟨snapshot, rows⟩ after ⟨hhome, hkept, plain, rfl, -, hrows⟩
    exact Run.ensures_pure (Run.ensures_pure ⟨hhome, some plain, .read hrows, hkept⟩)
  · rintro failure after ⟨hhome, hkept, rfl⟩
    exact ⟨hhome, none, .noTable failure, hkept⟩

/-- An append that fails does so before its commit if no row has an empty text in a partition
column. -/
theorem failsEarly_append {rows : List Row} {partitionBy : List String}
    (hrows : ∀ version actions columns,
      Table.Appends partitionBy (Log.read world.tree (locate world.home table.uri)) version actions
        columns →
      ∀ row ∈ rows, ∀ column ∈ columns, row.cell column ≠ .text "")
    (hrun : ((append rows partitionBy).run table).start world = (answer, after)) :
    (append rows partitionBy).FailsEarly (locate world.home table.uri) world.tree after.tree
      answer := by
  cases answer with
  | ok _ => trivial
  | error failure =>
    have hensures : ((append rows partitionBy).run table).Ensures world (fun _ _ => True)
        fun _ after => world.Changes [] (Table.AppendFailed (locate world.home table.uri)
          (Table.OnTheWay world.home table.uri) partitionBy rows) after :=
      Run.ensures_bind ((table.append_ensures rows partitionBy world).mono
        (fun _ _ _ => Run.ensures_pure trivial) fun _ _ h => h)
    rcases (hensures.of_error hrun).tree with
      hgrowth | ⟨version, actions, columns, files, happends, hwrites, hlost⟩
    · exact hgrowth.commits_eq
    · obtain ⟨file, hfile, hempty⟩ := List.any_eq_true.mp hlost
      obtain ⟨group, hmem, hgroup⟩ := exists_mem_of_forall₂_right hwrites.isWritten hfile
      obtain ⟨row, _, hgroupRows, -⟩ := hgroup.described
      obtain ⟨hrow, hvalues⟩ :=
        Partition.mem_of_mem_groups hmem (hgroupRows ▸ List.mem_cons_self)
      rw [Log.hasLostValue, hgroup.partition, ← hvalues, Partition.valuesOf, List.any_map,
        List.any_eq_true] at hempty
      obtain ⟨column, hcolumn, htext⟩ := hempty
      exact absurd (of_decide_eq_true htext)
        (hrows _ _ _ happends row hrow column (List.mem_eraseDups.mp hcolumn))

/-- Every operation that does not fail after a commit is a step of plain tables. -/
theorem isStep (hkeeps : table.Keeps state world) (huri : table.uri ≠ "") (operation : Operation)
    (hrun : (operation.run table).start world = (answer, after))
    (hearly : operation.FailsEarly (locate world.home table.uri) world.tree after.tree answer) :
    IsStep table state world operation answer after := by
  cases operation <;> cases answer
  case append.error => exact (isStep_append hkeeps huri _ _).of_error hrun hearly
  case append.ok => exact (isStep_append hkeeps huri _ _).of_ok hrun
  case delete.error => exact (isStep_delete hkeeps huri _).of_error hrun
  case delete.ok => exact (isStep_delete hkeeps huri _).of_ok hrun
  case checkpoint.error => exact (isStep_checkpoint hkeeps).of_error hrun
  case checkpoint.ok => exact (isStep_checkpoint hkeeps).of_ok hrun
  case summary.error => exact (isStep_summary hkeeps).of_error hrun
  case summary.ok => exact (isStep_summary hkeeps).of_ok hrun
  case read.error => exact (isStep_read hkeeps).of_error hrun
  case read.ok => exact (isStep_read hkeeps).of_ok hrun

end Operation

/-! ### Sessions -/

/-- One operation of a session: the files that it found, and its answer. -/
structure Exchange where
  tree : FileTree Content
  operation : Operation
  answer : Except Failure Answer

/-- What others do while a session goes on: they leave the place of the table alone, and remove no
directories. -/
structure World.Elsewhere (place : Location) (before after : World) : Prop where
  home : after.home = before.home
  untouched : Table.Untouched place before.tree after.tree
  kept : ∀ l, before.tree.find? l = some .directory → after.tree.find? l = some .directory
  sound : before.IsSound → after.IsSound

/-- What others do elsewhere keeps the plain table. -/
theorem Table.Keeps.of_elsewhere {table : Table} {state : Option PlainTable} {world after : World}
    (h : table.Keeps state world)
    (helsewhere : world.Elsewhere (locate world.home table.uri) after) :
    table.Keeps state after where
  sound := helsewhere.sound h.sound
  holds := helsewhere.home ▸ h.holds.of_untouched helsewhere.untouched
  isReady hsome := (h.isReady hsome).of_kept helsewhere.home helsewhere.kept

section

variable [Engine]

/-- A session on a table: operations in any order, where an append that fails does so before its
commit. -/
inductive Session (table : Table) (first : World) : List Exchange → World → Prop where
  | start : Session table first [] first
  | operation {log : List Exchange} {world after : World} {answer : Except Failure Answer}
      (operation : Operation) (h : Session table first log world)
      (hrun : (operation.run table).start world = (answer, after))
      (hearly : operation.FailsEarly (locate world.home table.uri) world.tree after.tree answer) :
    Session table first (log ++ [⟨world.tree, operation, answer⟩]) after
  | elsewhere {log : List Exchange} {world after : World} (h : Session table first log world)
      (helsewhere : world.Elsewhere (locate world.home table.uri) after) :
    Session table first log after

/-- A run of plain tables with the answers of a session. -/
inductive PlainRun (place : Location) (first : Option PlainTable) :
    List Exchange → Option PlainTable → Prop where
  | start : PlainRun place first [] first
  | step {log : List Exchange} {state last : Option PlainTable} {exchange : Exchange}
      (h : PlainRun place first log state)
      (hstep : PlainStep (Table.IsBlocked exchange.tree place) state exchange.operation
        exchange.answer last) :
    PlainRun place first (log ++ [exchange]) last

/-- A session is a run of plain tables, and leaves the last of them. -/
theorem Session.exists_plainRun_of_keeps {table : Table} {first after : World}
    {state : Option PlainTable} (hkeeps : table.Keeps state first) (huri : table.uri ≠ "")
    {log : List Exchange} (h : Session table first log after) :
    after.home = first.home ∧
      ∃ last, PlainRun (locate first.home table.uri) state log last ∧ table.Keeps last after := by
  induction h with
  | start => exact ⟨rfl, state, .start, hkeeps⟩
  | operation operation _ hrun hearly ih =>
    obtain ⟨hhome, middle, hplain, hkept⟩ := ih
    obtain ⟨hhome', last, hstep, hlast⟩ := operation.isStep hkept huri hrun hearly
    rw [hhome] at hstep
    exact ⟨hhome'.trans hhome, last, .step hplain hstep, hlast⟩
  | elsewhere _ helsewhere ih =>
    obtain ⟨hhome, last, hplain, hkept⟩ := ih
    exact ⟨helsewhere.home.trans hhome, last, hplain, hkept.of_elsewhere helsewhere⟩

/-- Every session on a local table, from a machine where its place holds no table, is a run of plain
tables that starts without one; the machine holds its last state in the end. -/
theorem Session.exists_plainRun {name root uri : String}
    (huri : StorageMode.localFiles.tableUri name root = .ok uri) {first after : World}
    (hsound : first.IsSound) (habsent : Log.read first.tree (locate first.home uri) = .absent)
    {log : List Exchange} (h : Session ⟨uri⟩ first log after) :
    ∃ last, PlainRun (locate first.home uri) none log last ∧
      Holds after.tree (locate first.home uri) last := by
  have hne : uri ≠ "" := by
    rintro rfl
    obtain ⟨segment, -, -, -, hsteps⟩ := StorageMode.pathSteps_of_tableUri huri first.home
    simp at hsteps
  have hkeeps : Table.Keeps ⟨uri⟩ none first := ⟨hsound, habsent, fun h => absurd rfl h⟩
  obtain ⟨hhome, last, hplain, hlast⟩ := h.exists_plainRun_of_keeps hkeeps hne
  exact ⟨last, hplain, hhome ▸ hlast.holds⟩

end

/-- On the fresh machine, an append of two rows with a partition column and a deletion of one of
them. -/
theorem Session.exists_plainRun_append_delete :
    ∃ log after last, Session ⟨"./t/"⟩ .fresh log after ∧
      log.map Exchange.answer = [.ok (.version 0), .ok (.deleted ⟨1, 1⟩)] ∧
      PlainRun ["work", "t"] none log last ∧ Holds after.tree ["work", "t"] last := by
  let rows : List Row := [⟨1, "a", 0, "odd_user"⟩, ⟨2, "b", 0, "even_user"⟩]
  let table : Table := ⟨"./t/"⟩
  let appended := ((Operation.append rows ["user"]).run table).start .fresh
  let deleted := ((Operation.delete "id = 1").run table).start appended.2
  have hplace : locate World.fresh.home "./t/" = ["work", "t"] := by decide +kernel
  have hstart : Session table .fresh [] .fresh := .start
  have hearly : (Operation.append rows ["user"]).FailsEarly (locate World.fresh.home table.uri)
      World.fresh.tree appended.2.tree appended.1 := by
    refine Operation.failsEarly_append (fun _ _ _ _ row hrow column _ => ?_) rfl
    revert row
    cases column <;> decide
  have hfirst := Session.operation (.append rows ["user"]) hstart rfl hearly
  have hsession := Session.operation (.delete "id = 1") hfirst rfl trivial
  have huri : StorageMode.localFiles.tableUri "t" "." = .ok table.uri := by decide +kernel
  obtain ⟨last, hplain, hholds⟩ :=
    Session.exists_plainRun huri World.isSound_fresh (by decide +kernel) hsession
  rw [hplace] at hplain hholds
  exact ⟨_, _, last, hsession, by decide +kernel, hplain, hholds⟩

end LogTable
