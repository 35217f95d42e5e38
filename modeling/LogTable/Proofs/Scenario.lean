import LogTable.Proofs.Batch.Ids
import LogTable.Proofs.Table.Complete

/-!
# Reports of scenarios

What a scenario that succeeds reports, in terms of the plain table that it starts from and the
batches that it appends (`ScenarioReport.IsExact`).  A scenario starts without a table if it is to
remove the table and something stands at the address; otherwise it starts from the table that is
there, also when it is to remove it (`Scenario.StartsFrom`).  Main statement:
`Scenario.exists_report_isExact`.
-/

namespace LogTable

open FileTree Predicate

namespace Scenario

/-! ### What a scenario is to do -/

/-- The plain table that a scenario starts from, if any.  Removing a table counts only if its
address leads somewhere on the machine. -/
def StartsFrom (scenario : Scenario) (uri : String) (world : World) (start : Option PlainTable) :
    Prop :=
  if scenario.reset && world.tree.existsAt world.home uri then start = none
  else Holds world.tree (locate world.home uri) start

/-- The batches that a scenario appends: each has a first id of the plan and a reading of the
clock. -/
def Generates (scenario : Scenario) (clock : Clock) (batches : List (List Row)) : Prop :=
  ∃ starts, scenario.plan.starts = .ok starts ∧
    List.Forall₂ (fun start batch => Batch.generate start.1 scenario.plan.rowsPerBatch.toNat
      (clock start.2) scenario.message = .ok batch) starts.zipIdx batches

/-- The scenario is to delete a row: its predicate, if it has one, is true of the row. -/
def deletes [Engine] (scenario : Scenario) (row : Row) : Bool :=
  match scenario.deletePredicate with
  | none => false
  | some predicate =>
    match Engine.read? predicate with
    | some condition => Engine.isTrueOf condition row
    | none => false

/-- The predicate of the scenario, if it has one, mentions partition columns only, so that whole
files are dropped and no rows are counted. -/
def dropsFiles [Engine] (scenario : Scenario) (snapshot : Snapshot) : Bool :=
  match scenario.deletePredicate with
  | none => false
  | some predicate =>
    match Engine.read? predicate with
    | some condition => Deletion.isOnPartitions snapshot condition
    | none => false

/-- Which predicates drop files depends on the partition columns only. -/
theorem dropsFiles_congr [Engine] (scenario : Scenario) {first second : Snapshot}
    (h : first.partitionBy = second.partitionBy) :
    scenario.dropsFiles first = scenario.dropsFiles second := by
  simp only [dropsFiles, Deletion.isOnPartitions, h]

/-- A scenario appends as many rows as its plan says. -/
theorem Generates.length_flatten {scenario : Scenario} {clock : Clock} {batches : List (List Row)}
    (h : scenario.Generates clock batches) :
    batches.length = scenario.plan.batches.toNat ∧
      batches.flatten.length =
        scenario.plan.batches.toNat * scenario.plan.rowsPerBatch.toNat := by
  obtain ⟨starts, hstarts, hbatches⟩ := h
  have hlength : batches.length = scenario.plan.batches.toNat := by
    rw [← hbatches.length_eq, List.length_zipIdx, BatchPlan.length_of_starts hstarts]
  have hrows : batches.map List.length =
      List.replicate scenario.plan.batches.toNat scenario.plan.rowsPerBatch.toNat := by
    rw [List.eq_replicate_iff, List.length_map]
    refine ⟨hlength, fun n hn => ?_⟩
    obtain ⟨batch, hbatch, rfl⟩ := List.mem_map.mp hn
    obtain ⟨start, -, hgenerate⟩ := exists_mem_of_forall₂_right hbatches hbatch
    exact Batch.length_of_generate hgenerate
  exact ⟨hlength, by rw [List.length_flatten, hrows, List.sum_replicate_nat]⟩

end Scenario

/-- What the report of a scenario says: the versions follow the one that the scenario starts from
without a gap, and no row is lost or repeated. -/
structure ScenarioReport.IsExact [Engine] (report : ScenarioReport) (scenario : Scenario)
    (uri : String) (start : Option PlainTable) (batches : List (List Row)) (after : World) :
    Prop where
  uri_eq : report.uri = uri
  appendVersions_eq : report.appendVersions =
    List.range' (PlainTable.nextVersion start) scenario.plan.batches.toNat
  /-- There is one more version exactly if a row is deleted. -/
  version_eq : report.summary.version + 1 =
    PlainTable.nextVersion start + scenario.plan.batches.toNat +
      if (PlainTable.rowsOf start + batches.flatten).countP (scenario.deletes ·) = 0 then 0 else 1
  rows_eq : report.summary.rows +
      (PlainTable.rowsOf start + batches.flatten).countP (scenario.deletes ·) =
    (PlainTable.rowsOf start).card +
      scenario.plan.batches.toNat * scenario.plan.rowsPerBatch.toNat
  checkpointVersion_eq : report.checkpointVersion =
    if scenario.checkpoint then some report.summary.version else none
  /-- The table can be read afterwards, and holds the rows that are not deleted. -/
  exists_readAll : ∃ rows world, (Table.readAll ⟨uri⟩).start after = (.ok rows, world) ∧
    (rows : Multiset Row) =
      (PlainTable.rowsOf start + batches.flatten).filter fun row => !scenario.deletes row

/-! ### The parts of a scenario -/

namespace Scenario

variable {table : Table} {state : Option PlainTable} {plain : PlainTable} {world : World}

/-- Appending batches to a plain table gives the versions that come next, and adds their rows. -/
theorem appendBatches_ensures (scenario : Scenario) (clock : Clock)
    (h : Holds world.tree (locate world.home table.uri) state) (b : Nat) (starts : List Int64) :
    (scenario.appendBatches table clock b starts).Ensures world
      (fun versions after => after.home = world.home ∧
        versions = List.range' (PlainTable.nextVersion state) starts.length ∧
        ∃ batches last, List.Forall₂ (fun start batch => Batch.generate start.1
            scenario.plan.rowsPerBatch.toNat (clock start.2) scenario.message = .ok batch)
            (starts.zipIdx b) batches ∧
          Holds after.tree (locate world.home table.uri) last ∧
          PlainTable.nextVersion last = PlainTable.nextVersion state + starts.length ∧
          PlainTable.rowsOf last = PlainTable.rowsOf state + batches.flatten)
      fun _ _ => True := by
  induction starts generalizing b world state with
  | nil => exact Run.ensures_pure ⟨rfl, rfl, [], state, .nil, h, rfl, by simp⟩
  | cons start starts ih =>
    refine Run.ensures_bind (Run.ensures_ofExcept (fun rows hrows => ?_) fun _ _ => trivial)
    refine Run.ensures_bind ((table.append_ensures rows _ world).mono ?_ fun _ _ _ => trivial)
    rintro version middle ⟨hchanges, -⟩
    obtain ⟨rfl, hmiddle⟩ := h.of_appended hchanges.tree
    rw [← hchanges.home] at hmiddle
    refine Run.ensures_bind ((ih hmiddle (b + 1)).mono ?_ fun _ _ _ => trivial)
    rintro versions after ⟨hhome, rfl, batches, last, hbatches, hlast, hnext, hrowsOf⟩
    rw [hchanges.home] at hhome hlast
    refine Run.ensures_pure ⟨hhome, ?_, rows :: batches, last, .cons hrows hbatches, hlast, ?_, ?_⟩
    · rw [List.length_cons, List.range'_succ]
      rfl
    · rw [hnext, PlainTable.nextVersion_append, List.length_cons]
      omega
    · rw [hrowsOf, PlainTable.rowsOf_append, List.flatten_cons, ← Multiset.coe_add,
        Multiset.add_assoc]

/-- No batch can be appended to a log that cannot be read. -/
theorem appendBatches_ensures_of_damaged (scenario : Scenario) (clock : Clock)
    (h : Log.read world.tree (locate world.home table.uri) = .damaged) (b : Nat) (start : Int64)
    (starts : List Int64) :
    (scenario.appendBatches table clock b (start :: starts)).Ensures world (fun _ _ => False)
      fun _ _ => True := by
  refine Run.ensures_bind (Run.ensures_ofExcept (fun rows _ => ?_) fun _ _ => trivial)
  refine Run.ensures_bind ((table.append_ensures rows _ world).mono ?_ fun _ _ _ => trivial)
  rintro version middle ⟨hchanges, -⟩
  obtain ⟨actions, columns, files, happends, -, -⟩ := hchanges.tree
  rw [h] at happends
  cases happends

/-- The removal leaves no table if something stands at the address, and otherwise everything as it
is. -/
theorem removeTable_ensures_tree (scenario : Scenario) (uri : String) (world : World) :
    (scenario.removeTable .localFiles uri).Ensures world
      (fun _ after => after.home = world.home ∧
        if scenario.reset && world.tree.existsAt world.home uri then
          Log.read after.tree (locate world.home uri) = .absent
        else after.tree = world.tree)
      fun _ _ => True := by
  unfold removeTable
  cases scenario.reset with
  | false => exact Run.ensures_pure ⟨rfl, rfl⟩
  | true =>
    refine Run.ensures_bind
      ((StorageMode.resetLocal_ensures uri world).mono ?_ fun _ _ _ => trivial)
    rintro _ after hafter
    rw [Bool.true_and]
    exact Run.ensures_pure hafter

/-- After the removal the place holds what the scenario starts from. -/
theorem removeTable_ensures {scenario : Scenario} {uri : String} {start : Option PlainTable}
    (h : scenario.StartsFrom uri world start) :
    (scenario.removeTable .localFiles uri).Ensures world
      (fun _ after => after.home = world.home ∧
        Holds after.tree (locate world.home uri) start)
      fun _ _ => True := by
  refine (scenario.removeTable_ensures_tree uri world).mono ?_ fun _ _ _ => trivial
  rintro _ after ⟨hhome, hafter⟩
  refine ⟨hhome, ?_⟩
  unfold StartsFrom at h
  cases hremoved : scenario.reset && world.tree.existsAt world.home uri with
  | true =>
    rw [hremoved] at h hafter
    rw [show start = none from h]
    exact hafter
  | false =>
    rw [hremoved] at h hafter
    rw [show after.tree = world.tree from hafter]
    exact h

/-- In a settled place there is something to start from, or a log that cannot be read and that is
not removed. -/
theorem exists_startsFrom (scenario : Scenario) {uri : String}
    (h : IsSettled world.tree (locate world.home uri)) :
    (∃ start, scenario.StartsFrom uri world start) ∨
      (scenario.reset && world.tree.existsAt world.home uri) = false ∧
        Log.read world.tree (locate world.home uri) = .damaged := by
  unfold StartsFrom
  cases hremoved : scenario.reset && world.tree.existsAt world.home uri with
  | true => exact Or.inl ⟨none, rfl⟩
  | false => exact h.imp_right fun hdamaged => ⟨rfl, hdamaged⟩

/-- What the appends ensure wherever the removal ends. -/
theorem ensures_load {scenario : Scenario} {uri : String} {clock : Clock}
    {done : List Nat → World → Prop}
    (h : ∀ journal, (scenario.removeTable .localFiles uri).Ensures { world with journal }
      (fun _ removed => ∀ starts, scenario.plan.starts = .ok starts →
        (scenario.appendBatches ⟨uri⟩ clock 0 starts).Ensures removed done fun _ _ => True)
      fun _ _ => True) :
    (scenario.load .localFiles uri clock).Ensures world done fun _ _ => True := by
  refine Run.ensures_bind (Run.ensures_record ?_)
  refine Run.ensures_bind ((h _).mono (fun _ removed hremoved => ?_) fun _ _ _ => trivial)
  exact Run.ensures_bind (Run.ensures_ofExcept_mapError hremoved fun _ _ => trivial)

/-- The appends lead from what the scenario starts from to a plain table. -/
theorem load_ensures {scenario : Scenario} {uri : String} {start : Option PlainTable}
    (hstart : scenario.StartsFrom uri world start) (clock : Clock) :
    (scenario.load .localFiles uri clock).Ensures world
      (fun versions after => after.home = world.home ∧
        versions = List.range' (PlainTable.nextVersion start) scenario.plan.batches.toNat ∧
        ∃ batches plain, scenario.Generates clock batches ∧
          Holds after.tree (locate world.home uri) (some plain) ∧
          plain.version + 1 = PlainTable.nextVersion start + scenario.plan.batches.toNat ∧
          plain.rows = PlainTable.rowsOf start + batches.flatten)
      fun _ _ => True := by
  refine ensures_load fun journal => ?_
  have hrecorded : scenario.StartsFrom uri { world with journal } start := hstart
  refine (removeTable_ensures hrecorded).mono ?_ fun _ _ _ => trivial
  rintro _ removed ⟨hhome, hholds⟩ starts hstarts
  rw [← hhome] at hholds
  refine (scenario.appendBatches_ensures clock hholds 0 starts).mono ?_ fun _ _ _ => trivial
  rintro _ appended ⟨hhome', rfl, batches, last, hbatches, hlast, hnext, hrows⟩
  rw [BatchPlan.length_of_starts hstarts] at hnext ⊢
  obtain ⟨plain, rfl⟩ : ∃ plain, last = some plain := by
    refine Option.ne_none_iff_exists'.mp ?_
    rintro rfl
    have hpos := scenario.plan.batches_pos
    rw [PlainTable.nextVersion] at hnext
    omega
  rw [hhome] at hlast
  exact ⟨hhome'.trans hhome, rfl, batches, plain, ⟨starts, hstarts, hbatches⟩, hlast, hnext, hrows⟩

/-- There is at least one batch, and none can be appended to a log that cannot be read. -/
theorem load_ensures_of_damaged {scenario : Scenario} {uri : String}
    (hkept : (scenario.reset && world.tree.existsAt world.home uri) = false)
    (hdamaged : Log.read world.tree (locate world.home uri) = .damaged) (clock : Clock) :
    (scenario.load .localFiles uri clock).Ensures world (fun _ _ => False) fun _ _ => True := by
  refine ensures_load fun journal =>
    (scenario.removeTable_ensures_tree uri { world with journal }).mono ?_ fun _ _ _ => trivial
  rintro _ removed ⟨hhome, hafter⟩ starts hstarts
  change removed.home = world.home at hhome
  rw [hkept] at hafter
  have hdamaged' : Log.read removed.tree (locate removed.home (Table.mk uri).uri) = .damaged := by
    rw [show removed.tree = world.tree from hafter, hhome]
    exact hdamaged
  obtain ⟨first, rest, rfl⟩ := BatchPlan.exists_cons_of_starts hstarts
  exact scenario.appendBatches_ensures_of_damaged clock hdamaged' 0 first rest

/-- Deleting rows leaves the rows that the scenario does not delete, and counts the others unless
files are dropped. -/
theorem deleteRows_ensures [Engine] (scenario : Scenario)
    (h : Holds world.tree (locate world.home table.uri) (some plain)) :
    (scenario.deleteRows table).Ensures world
      (fun rowsDeleted after => after.home = world.home ∧
        Holds after.tree (locate world.home table.uri) (some (plain.delete scenario.deletes)) ∧
        ∀ snapshot, Log.read after.tree (locate world.home table.uri) = .table snapshot →
          rowsDeleted = if scenario.dropsFiles snapshot then 0
            else plain.rows.countP (scenario.deletes ·))
      fun _ _ => True := by
  unfold deleteRows
  cases hpredicate : scenario.deletePredicate with
  | none =>
    have hdeletes : scenario.deletes = fun _ => false := by
      funext row
      rw [deletes, hpredicate]
    rw [hdeletes, PlainTable.delete_of_forall fun _ _ => rfl]
    exact Run.ensures_pure ⟨rfl, h, fun _ _ => by simp⟩
  | some predicate =>
    refine Run.ensures_bind ((table.delete_ensures predicate world).mono ?_ fun _ _ _ => trivial)
    rintro outcome after ⟨hchanges, -⟩
    obtain ⟨plain', condition, heq, hcondition, -, hafter⟩ := h.of_deleted hchanges.tree
    obtain rfl := Option.some.inj heq
    obtain ⟨snapshot, condition', hread, hcondition', hcount⟩ :=
      h.rowsDeleted_of_deleted hchanges.tree
    obtain rfl := Option.some.inj (hcondition'.symm.trans hcondition)
    have hdeletes : scenario.deletes = Engine.isTrueOf condition' := by
      funext row
      rw [deletes, hpredicate]
      simp only [hcondition]
    refine Run.ensures_pure ⟨hchanges.home, by rwa [hdeletes], fun next hnext => ?_⟩
    rw [scenario.dropsFiles_congr (hchanges.tree.partitionBy_eq hread hnext), hdeletes, hcount,
      dropsFiles, hpredicate]
    simp only [hcondition]

/-- Writing a checkpoint leaves the plain table, and what the log says, as they are. -/
theorem writeCheckpoint_ensures (scenario : Scenario)
    (h : Holds world.tree (locate world.home table.uri) (some plain)) :
    (scenario.writeCheckpoint table).Ensures world
      (fun version after => after.home = world.home ∧
        version = (if scenario.checkpoint then some plain.version else none) ∧
        Holds after.tree (locate world.home table.uri) (some plain) ∧
        Log.read after.tree (locate world.home table.uri) =
          Log.read world.tree (locate world.home table.uri))
      fun _ _ => True := by
  unfold writeCheckpoint
  split_ifs
  · refine Run.ensures_bind ((table.checkpoint_ensures world).mono ?_ fun _ _ _ => trivial)
    rintro _ after ⟨snapshot, rfl, hchanges, -⟩
    obtain ⟨plain', heq, -, hversion, -⟩ := h.of_read_eq_table hchanges.tree.1
    obtain rfl := Option.some.inj heq
    exact Run.ensures_pure ⟨hchanges.home, by rw [hversion], h.of_checkpointed hchanges.tree,
      hchanges.tree.read_eq⟩
  · exact Run.ensures_pure ⟨rfl, rfl, h, rfl⟩

end Scenario

/-- A scan of a plain table gives its version and its rows, and leaves it as it is. -/
theorem Table.scan_ensures_holds {table : Table} {plain : PlainTable} {world : World}
    (h : Holds world.tree (locate world.home table.uri) (some plain)) :
    table.scan.Ensures world
      (fun answer after => after.home = world.home ∧
        Holds after.tree (locate world.home table.uri) (some plain) ∧
        Log.read after.tree (locate world.home table.uri) =
          Log.read world.tree (locate world.home table.uri) ∧ table.IsReady after ∧
        answer.1.version = plain.version ∧ (answer.2 : Multiset Row) = plain.rows)
      fun _ _ => ¬ table.IsReady world := by
  refine (table.scan_ensures world).mono ?_ ?_
  · rintro ⟨snapshot, rows⟩ after ⟨hchanges, hready, hread, hrows⟩
    obtain ⟨plain', heq, hversion, hplain⟩ := h.of_rows?_eq_some hread hrows
    obtain rfl := Option.some.inj heq
    exact ⟨hchanges.home, h.of_growth hchanges.tree.1, hchanges.tree.1.read_eq, hready, hversion,
      hplain⟩
  · rintro _ after ⟨-, hcause⟩ hready
    obtain ⟨snapshot, rows, hread, hrows⟩ := h.exists_rows?_eq_some
    exact hcause snapshot rows hready hread hrows

/-- A summary of a plain table counts its rows; readers get to the table then. -/
theorem Table.summary_ensures_holds {table : Table} {plain : PlainTable} {world : World}
    (h : Holds world.tree (locate world.home table.uri) (some plain)) :
    table.summary.Ensures world
      (fun summary after => after.home = world.home ∧
        Holds after.tree (locate world.home table.uri) (some plain) ∧
        Log.read after.tree (locate world.home table.uri) =
          Log.read world.tree (locate world.home table.uri) ∧ table.IsReady after ∧
        summary.version = plain.version ∧ summary.rows = plain.rows.card)
      fun _ _ => ¬ table.IsReady world := by
  refine Run.ensures_bind ((scan_ensures_holds h).mono ?_ fun _ _ hnot => hnot)
  rintro ⟨snapshot, rows⟩ after ⟨hhome, hafter, hread, hready, hversion, hrows⟩
  exact Run.ensures_pure
    ⟨hhome, hafter, hread, hready, hversion, by rw [← hrows, Multiset.coe_card]⟩

/-- The rows of a plain table can be read if readers get to it. -/
theorem Table.exists_readAll {table : Table} {plain : PlainTable} {world : World}
    (h : Holds world.tree (locate world.home table.uri) (some plain))
    (hready : table.IsReady world) :
    ∃ rows after, table.readAll.start world = (.ok rows, after) ∧
      (rows : Multiset Row) = plain.rows := by
  have hensures : table.readAll.Ensures world (fun rows _ => (rows : Multiset Row) = plain.rows)
      fun _ _ => False :=
    Run.ensures_bind ((scan_ensures_holds h).mono
      (fun _ _ hanswer => Run.ensures_pure hanswer.2.2.2.2.2) fun _ _ hnot => hnot hready)
  exact hensures.exists_ok

/-! ### The whole scenario -/

/-- What a report says about the plain table that the appends have led to, apart from the number of
deleted rows. -/
structure ScenarioReport.IsAbout [Engine] (report : ScenarioReport) (scenario : Scenario)
    (uri : String) (plain : PlainTable) (after : World) : Prop where
  uri_eq : report.uri = uri
  checkpointVersion_eq : report.checkpointVersion =
    if scenario.checkpoint then some (plain.delete scenario.deletes).version else none
  version_eq : report.summary.version = (plain.delete scenario.deletes).version
  rows_eq : report.summary.rows = (plain.delete scenario.deletes).rows.card
  exists_readAll : ∃ rows world, (Table.readAll ⟨uri⟩).start after = (.ok rows, world) ∧
    (rows : Multiset Row) = (plain.delete scenario.deletes).rows

/-- The report is exact if the batches have led from the start to the plain table that it is
about. -/
theorem ScenarioReport.IsAbout.isExact [Engine] {report : ScenarioReport} {scenario : Scenario}
    {clock : Clock} {uri : String} {start : Option PlainTable} {batches : List (List Row)}
    {plain : PlainTable} {after : World} (h : report.IsAbout scenario uri plain after)
    (hgenerates : scenario.Generates clock batches)
    (hnext : plain.version + 1 = PlainTable.nextVersion start + scenario.plan.batches.toNat)
    (hrows : plain.rows = PlainTable.rowsOf start + batches.flatten)
    (hversions : report.appendVersions =
      List.range' (PlainTable.nextVersion start) scenario.plan.batches.toNat) :
    report.IsExact scenario uri start batches after := by
  refine ⟨h.uri_eq, hversions, ?_, ?_, by rw [h.checkpointVersion_eq, h.version_eq], ?_⟩
  · rw [h.version_eq, ← hnext, ← hrows, PlainTable.delete]
    split_ifs <;> rfl
  · have hcard := PlainTable.card_rows_delete scenario.deletes plain
    rw [← h.rows_eq, hrows, Multiset.card_add, Multiset.coe_card,
      hgenerates.length_flatten.2] at hcard
    exact hcard
  · rw [← hrows]
    exact h.exists_readAll

namespace Scenario

variable {world : World}

/-- What a scenario does after its appends to a plain table is told by the report, but for deleted
rows when files are dropped. -/
theorem finish_ensures_isAbout [Engine] (scenario : Scenario) {uri : String} {plain : PlainTable}
    (h : Holds world.tree (locate world.home uri) (some plain)) (versions : List Nat) :
    (scenario.finish uri versions).Ensures world
      (fun report after => report.appendVersions = versions ∧
        report.IsAbout scenario uri plain after ∧
        scenario.plan.totalRows =
          .ok (scenario.plan.batches.toNat * scenario.plan.rowsPerBatch.toNat) ∧
        ∃ snapshot, Log.read after.tree (locate world.home uri) = .table snapshot ∧
          report.rowsDeleted = if scenario.dropsFiles snapshot then 0
            else plain.rows.countP (scenario.deletes ·))
      fun _ _ => True := by
  refine Run.ensures_bind ((scenario.deleteRows_ensures h).mono ?_ fun _ _ _ => trivial)
  rintro rowsDeleted deleted ⟨hhome, hdeleted, hrowsDeleted⟩
  rw [← hhome] at hdeleted hrowsDeleted ⊢
  refine Run.ensures_bind ((scenario.writeCheckpoint_ensures hdeleted).mono ?_ fun _ _ _ => trivial)
  rintro checkpoint checkpointed ⟨hhome, hcheckpoint, hcheckpointed, hread⟩
  rw [← hread] at hrowsDeleted
  rw [← hhome] at hcheckpointed hrowsDeleted ⊢
  refine Run.ensures_bind ((Table.summary_ensures_holds hcheckpointed).mono ?_
    fun _ _ _ => trivial)
  rintro summary counted ⟨hhome, hcounted, hread, hready, hversion, hcount⟩
  rw [← hread] at hrowsDeleted
  rw [← hhome] at hcounted hrowsDeleted ⊢
  refine Run.ensures_bind (Run.ensures_ofExcept_mapError (fun rowsWritten htotal => ?_)
    fun _ _ => trivial)
  obtain ⟨-, rfl⟩ := checkedMul_eq_ok_iff.mp htotal
  obtain ⟨snapshot, hsnapshot, hstored⟩ := hcounted
  refine Run.ensures_bind (Run.ensures_record (Run.ensures_pure
    ⟨rfl, ⟨rfl, hcheckpoint, hversion, hcount, ?_⟩, htotal, snapshot, hsnapshot,
      hrowsDeleted snapshot hsnapshot⟩))
  exact Table.exists_readAll ⟨snapshot, hsnapshot, hstored⟩ (hready.of_kept rfl fun _ hl => hl)

/-- In a settled place, a scenario that succeeds reports exactly what it does, and how many rows
it has deleted unless its predicate drops files. -/
theorem run_ensures_counted [Engine] {scenario : Scenario} {clock : Clock} {uri : String}
    (huri : StorageMode.localFiles.tableUri scenario.table scenario.localRoot = .ok uri)
    (hsettled : IsSettled world.tree (locate world.home uri)) :
    (scenario.run .localFiles clock).Ensures world
      (fun report after => ∃ start batches, scenario.StartsFrom uri world start ∧
        scenario.Generates clock batches ∧ report.IsExact scenario uri start batches after ∧
        scenario.plan.totalRows =
          .ok (scenario.plan.batches.toNat * scenario.plan.rowsPerBatch.toNat) ∧
        ∃ snapshot, Log.read after.tree (locate world.home uri) = .table snapshot ∧
          report.rowsDeleted = if scenario.dropsFiles snapshot then 0
            else (PlainTable.rowsOf start + batches.flatten).countP (scenario.deletes ·))
      fun _ _ => True := by
  rw [scenario.run_eq_load_bind clock huri]
  rcases scenario.exists_startsFrom hsettled with ⟨start, hstart⟩ | ⟨hkept, hdamaged⟩
  swap
  · exact Run.ensures_bind ((load_ensures_of_damaged hkept hdamaged clock).mono
      (fun _ _ h => h.elim) fun _ _ _ => trivial)
  refine Run.ensures_bind ((load_ensures hstart clock).mono ?_ fun _ _ _ => trivial)
  rintro _ appended ⟨hhome, rfl, batches, plain, hgenerates, hplain, hnext, hrows⟩
  rw [← hhome] at hplain
  refine (scenario.finish_ensures_isAbout hplain _).mono ?_ fun _ _ _ => trivial
  rintro report after ⟨hversions, habout, htotal, snapshot, hread, hcount⟩
  refine ⟨start, batches, hstart, hgenerates, habout.isExact hgenerates hnext hrows hversions,
    htotal, snapshot, hhome ▸ hread, ?_⟩
  rw [← hrows]
  exact hcount

theorem run_ensures [Engine] {scenario : Scenario} {clock : Clock} {uri : String}
    (huri : StorageMode.localFiles.tableUri scenario.table scenario.localRoot = .ok uri)
    (hsettled : IsSettled world.tree (locate world.home uri)) :
    (scenario.run .localFiles clock).Ensures world
      (fun report after => ∃ start batches, scenario.StartsFrom uri world start ∧
        scenario.Generates clock batches ∧ report.IsExact scenario uri start batches after)
      fun _ _ => True := by
  refine (run_ensures_counted huri hsettled).mono ?_ fun _ _ _ => trivial
  rintro report after ⟨start, batches, hstart, hgenerates, hexact, -⟩
  exact ⟨start, batches, hstart, hgenerates, hexact⟩

/-- A report that is exact from some start is exact from no table only if there was none at the
start: the first version tells. -/
theorem isExact_none_iff [Engine] {scenario : Scenario} {uri : String} {start : Option PlainTable}
    {batches : List (List Row)} {after : World} {report : ScenarioReport}
    (h : report.IsExact scenario uri start batches after) :
    report.IsExact scenario uri none batches after ↔ start = none := by
  refine ⟨fun hnone => ?_, fun hstart => hstart ▸ h⟩
  obtain ⟨n, hn⟩ := Nat.exists_eq_succ_of_ne_zero scenario.plan.batches_pos.ne'
  have hversions := h.appendVersions_eq.symm.trans hnone.appendVersions_eq
  rw [hn, List.range'_succ, List.range'_succ, List.cons.injEq] at hversions
  cases start with
  | none => rfl
  | some plain => exact absurd hversions.1 (Nat.succ_ne_zero _)

/-- A scenario starts from no table although it is to remove the table, exactly if something
stands at its address or there is no table anyway. -/
theorem StartsFrom.eq_none_iff {scenario : Scenario} {uri : String} {start : Option PlainTable}
    (h : scenario.StartsFrom uri world start) (hreset : scenario.reset = true) :
    start = none ↔ world.tree.existsAt world.home uri = true ∨
      Log.read world.tree (locate world.home uri) = .absent := by
  unfold StartsFrom at h
  cases hexists : world.tree.existsAt world.home uri with
  | true =>
    rw [hreset, hexists] at h
    exact ⟨fun _ => Or.inl rfl, fun _ => h⟩
  | false =>
    rw [hreset, hexists] at h
    cases start with
    | none => exact ⟨fun _ => Or.inr h, fun _ => rfl⟩
    | some plain =>
      obtain ⟨snapshot, hread, -⟩ := h
      rw [hread]
      simp

/-- A scenario that succeeds reports exactly what it has done, from the plain table that it starts
from.  If it is to remove the table, then the report is the one for no table exactly if something
stands at the address or there is no table in the place. -/
theorem exists_report_isExact [Engine] {scenario : Scenario} {clock : Clock} {uri : String}
    (huri : StorageMode.localFiles.tableUri scenario.table scenario.localRoot = .ok uri)
    {world after : World} (hreached : Reached (locate world.home uri) world)
    {report : ScenarioReport}
    (hrun : (scenario.run .localFiles clock).start world = (.ok report, after)) :
    ∃ start batches, scenario.StartsFrom uri world start ∧ scenario.Generates clock batches ∧
      report.IsExact scenario uri start batches after ∧
      (scenario.reset = true → (report.IsExact scenario uri none batches after ↔
        world.tree.existsAt world.home uri = true ∨
          Log.read world.tree (locate world.home uri) = .absent)) := by
  obtain ⟨start, batches, hstart, hgenerates, hexact⟩ :=
    (run_ensures huri hreached.isSettled).of_ok hrun
  refine ⟨start, batches, hstart, hgenerates, hexact, fun hreset => ?_⟩
  rw [isExact_none_iff hexact, hstart.eq_none_iff hreset]

/-- On a machine with a table in the place, a scenario that is to remove it starts again. -/
theorem exists_report_isExact_again :
    let world := (((Operation.append [⟨1, "a", 0, "odd_user"⟩] []).run ⟨"./t/"⟩).start .fresh).2
    let scenario : Scenario := { standard with table := "t" }
    let run := (scenario.run .localFiles fun _ => ⟨0⟩).start world
    ∃ report batches, run.1 = .ok report ∧ report.appendVersions = [0, 1] ∧
      report.IsExact scenario "./t/" none batches run.2 := by
  intro world scenario run
  have hplace : locate world.home "./t/" = ["work", "t"] := by decide +kernel
  have hreached : Reached (locate world.home "./t/") world := by
    rw [hplace]
    exact .operation (.start (by decide +kernel)) (by decide +kernel) _
  have hreport : run.1 = .ok ⟨"./t/", [0, 1], 1, some 2, ⟨2, 5, 2⟩⟩ := by decide +kernel
  have hrun : run = (.ok ⟨"./t/", [0, 1], 1, some 2, ⟨2, 5, 2⟩⟩, run.2) := Prod.ext hreport rfl
  have huri : StorageMode.localFiles.tableUri scenario.table scenario.localRoot = .ok "./t/" := by
    decide +kernel
  obtain ⟨start, batches, -, -, -, hnone⟩ := exists_report_isExact huri hreached hrun
  exact ⟨_, batches, hreport, rfl, (hnone rfl).mpr (Or.inl (by decide +kernel))⟩

/-- With a root that leads through a directory that is missing, nothing is removed, and a scenario
that is to remove the table continues it. -/
theorem continues_despite_reset :
    let world := (((Operation.append [⟨1, "a", 0, "odd_user"⟩] []).run ⟨"./t/"⟩).start .fresh).2
    let scenario : Scenario := { standard with table := "t", localRoot := "a/.." }
    let run := (scenario.run .localFiles fun _ => ⟨0⟩).start world
    Reached ["work", "t"] world ∧ locate world.home "a/../t/" = ["work", "t"] ∧
      scenario.reset = true ∧ ∃ report, run.1 = .ok report ∧ report.appendVersions = [1, 2] ∧
        ∀ batches, ¬ report.IsExact scenario "a/../t/" none batches run.2 := by
  intro world scenario run
  refine ⟨.operation (.start (by decide +kernel)) (by decide +kernel) _, by decide +kernel, rfl,
    ⟨"a/../t/", [1, 2], 2, some 3, ⟨3, 5, 2⟩⟩, by decide +kernel, rfl, fun batches h => ?_⟩
  exact absurd h.appendVersions_eq (by decide +kernel)

end Scenario

end LogTable
