import LogTable.Program
import LogTable.Proofs.Containment

/-!
# Secrecy of credentials

What a run of the program shows, and the files that it leaves, do not depend on the credentials in
its environment but for whether there is an access key.  `StorageMode.withoutSecrets` is a mode with
its credentials taken out; a scenario does the same with it as with the mode itself
(`Scenario.run_withoutSecrets`).  On an object store a scenario does nothing but record
(`Scenario.onlyRecords_run`), so that what has been recorded before makes no difference either.
Main statement: `Program.shown_eq_of_credentials`.
-/

namespace LogTable

open Predicate

/-! ### Modes without credentials -/

namespace StorageMode

/-- The mode with its credentials taken out. -/
def withoutSecrets : StorageMode → StorageMode
  | localFiles => localFiles
  | objectStore store => objectStore { store with accessKey := "", secretKey := "" }

@[simp] theorem word_withoutSecrets (mode : StorageMode) :
    mode.withoutSecrets.word = mode.word := by
  cases mode <;> rfl

@[simp] theorem isLocal_withoutSecrets (mode : StorageMode) :
    mode.withoutSecrets.isLocal = mode.isLocal := by
  cases mode <;> rfl

/-- The options that are shown are those of the mode without its credentials: the mask hides whether
a secret is there. -/
@[simp] theorem redactedOptions_withoutSecrets (mode : StorageMode) :
    mode.withoutSecrets.redactedOptions = mode.redactedOptions := by
  cases mode with
  | localFiles => rfl
  | objectStore store =>
    simp [withoutSecrets, redactedOptions, options, ObjectStore.options, secretNames]

@[simp] theorem tableUri_withoutSecrets (mode : StorageMode) (name root : String) :
    mode.withoutSecrets.tableUri name root = mode.tableUri name root := by
  cases mode <;> rfl

@[simp] theorem resetLocal_withoutSecrets (mode : StorageMode) (path : String) :
    mode.withoutSecrets.resetLocal path = mode.resetLocal path := by
  unfold resetLocal
  rw [isLocal_withoutSecrets]

/-- Environments that differ in credentials only, and agree on whether there is an access key,
select modes that differ in credentials only. -/
theorem withoutSecrets_ofEnvironment {env env' : Environment}
    (hothers : ∀ name, name ∉ secretNames → env name = env' name)
    (hkey : env.nonEmpty? StorageVariable.accessKey.name = none ↔
      env'.nonEmpty? StorageVariable.accessKey.name = none) :
    (ofEnvironment env).withoutSecrets = (ofEnvironment env').withoutSecrets := by
  have hendpoint := hothers StorageVariable.endpoint.name (by decide)
  have hbucket := hothers StorageVariable.bucket.name (by decide)
  have hregion := hothers StorageVariable.region.name (by decide)
  unfold ofEnvironment
  cases haccess : env.nonEmpty? StorageVariable.accessKey.name with
  | none => rw [hkey.mp haccess]
  | some key =>
    obtain ⟨key', haccess'⟩ : ∃ key', env'.nonEmpty? StorageVariable.accessKey.name = some key' :=
      Option.ne_none_iff_exists'.mp fun hnone => by simp [hkey.mpr hnone] at haccess
    rw [haccess']
    simp only [withoutSecrets, Environment.nonEmpty?, Environment.textOf, hendpoint, hbucket,
      hregion]

end StorageMode

/-- A scenario makes no use of credentials. -/
theorem Scenario.run_withoutSecrets [Engine] (scenario : Scenario) (storage : StorageMode)
    (clock : Clock) : scenario.run storage.withoutSecrets clock = scenario.run storage clock := by
  simp only [run, removeTable, StorageMode.tableUri_withoutSecrets,
    StorageMode.redactedOptions_withoutSecrets, StorageMode.resetLocal_withoutSecrets]

/-! ### Runs that only record -/

namespace Run

variable {α β : Type}

/-- The answer of the run and the events that it records are the same for all worlds, and it does
nothing else. -/
def OnlyRecords (run : Run α) : Prop :=
  ∃ answer events, ∀ world : World,
    run.start world = (answer, { world with journal := world.journal ++ events })

theorem onlyRecords_pure (a : α) : (pure a : Run α).OnlyRecords :=
  ⟨.ok a, [], fun world => by rw [List.append_nil]; rfl⟩

theorem onlyRecords_throw (failure : Failure) : (throw failure : Run α).OnlyRecords :=
  ⟨.error failure, [], fun world => by rw [List.append_nil]; rfl⟩

theorem onlyRecords_record (event : Event) : (record event).OnlyRecords :=
  ⟨.ok (), [event], fun _ => rfl⟩

theorem onlyRecords_ofExcept (answer : Except Failure α) : (ofExcept answer).OnlyRecords := by
  cases answer with
  | ok a => exact onlyRecords_pure a
  | error failure => exact onlyRecords_throw failure

theorem OnlyRecords.bind {run : Run α} {f : α → Run β} (h : run.OnlyRecords)
    (hf : ∀ a, (f a).OnlyRecords) : (run >>= f).OnlyRecords := by
  obtain ⟨answer, events, hrun⟩ := h
  cases answer with
  | error failure =>
    refine ⟨.error failure, events, fun world => ?_⟩
    rw [start_bind, hrun]
  | ok a =>
    obtain ⟨answer, later, hlater⟩ := hf a
    refine ⟨answer, events ++ later, fun world => ?_⟩
    rw [start_bind, hrun, ← List.append_assoc]
    exact hlater _

/-- A sequence whose first run fails without doing anything. -/
theorem onlyRecords_throw_bind (failure : Failure) (f : α → Run β) :
    ((throw failure : Run α) >>= f).OnlyRecords :=
  onlyRecords_throw (α := β) failure

end Run

namespace Table

variable {table : Table} (h : Address.ofUri table.uri = .store)

include h

theorem onlyRecords_append (rows : List Row) (partitionBy : List String) :
    (table.append rows partitionBy).OnlyRecords := by
  rw [append, placeForWriting, h]
  exact Run.onlyRecords_throw_bind _ _

theorem onlyRecords_delete [Engine] (predicate : String) :
    (table.delete predicate).OnlyRecords := by
  rw [delete, placeForWriting, h]
  exact Run.onlyRecords_throw_bind _ _

theorem onlyRecords_checkpoint : table.checkpoint.OnlyRecords := by
  rw [checkpoint, placeForReading, h]
  exact Run.onlyRecords_throw_bind _ _

theorem onlyRecords_summary : table.summary.OnlyRecords := by
  rw [summary, scan, placeForReading, h]
  exact (Run.onlyRecords_throw_bind _ _).bind fun _ => Run.onlyRecords_pure _

end Table

namespace Scenario

variable {table : Table}

theorem onlyRecords_appendBatches (h : Address.ofUri table.uri = .store) (scenario : Scenario)
    (clock : Clock) (b : Nat) (starts : List Int64) :
    (scenario.appendBatches table clock b starts).OnlyRecords := by
  induction starts generalizing b with
  | nil => exact Run.onlyRecords_pure []
  | cons start starts ih =>
    exact (Run.onlyRecords_ofExcept _).bind fun rows =>
      (Table.onlyRecords_append h rows _).bind fun _ =>
      (ih (b + 1)).bind fun _ => Run.onlyRecords_pure _

/-- A scenario on an object store does nothing but record. -/
theorem onlyRecords_run [Engine] (scenario : Scenario) (store : ObjectStore) (clock : Clock) :
    (scenario.run (.objectStore store) clock).OnlyRecords := by
  unfold run
  cases huri : (StorageMode.objectStore store).tableUri scenario.table scenario.localRoot with
  | error fault => exact Run.onlyRecords_throw_bind _ _
  | ok uri =>
    have h : Address.ofUri uri = .store := StorageMode.ofUri_of_tableUri huri
    have hremove : (scenario.removeTable (.objectStore store) uri).OnlyRecords := by
      unfold removeTable
      split_ifs <;> exact Run.onlyRecords_pure ()
    have hdelete : (scenario.deleteRows ⟨uri⟩).OnlyRecords := by
      unfold deleteRows
      split
      · exact (Table.onlyRecords_delete h _).bind fun _ => Run.onlyRecords_pure _
      · exact Run.onlyRecords_pure 0
    have hcheckpoint : (scenario.writeCheckpoint ⟨uri⟩).OnlyRecords := by
      unfold writeCheckpoint
      split_ifs
      · exact (Table.onlyRecords_checkpoint h).bind fun _ => Run.onlyRecords_pure _
      · exact Run.onlyRecords_pure none
    rw [Except.mapError, Run.ofExcept_ok, pure_bind]
    exact (Run.onlyRecords_record _).bind fun _ => hremove.bind fun _ =>
      (Run.onlyRecords_ofExcept _).bind fun starts =>
      (scenario.onlyRecords_appendBatches h clock 0 starts).bind fun _ =>
      hdelete.bind fun _ => hcheckpoint.bind fun _ =>
      (Table.onlyRecords_summary h).bind fun _ =>
      (Run.onlyRecords_ofExcept _).bind fun _ =>
      (Run.onlyRecords_record _).bind fun _ => Run.onlyRecords_pure _

end Scenario

/-! ### What a run of the program shows -/

/-- The line for the start of a scenario names the mode by its word only. -/
theorem Event.line_starting [OptionOrder] {mode mode' : StorageMode} (h : mode.word = mode'.word)
    (table : String) : (starting mode table).line = (starting mode' table).line := by
  unfold line
  simp only [h]

namespace Program

/-- All that can be seen of a run of the program from outside. -/
structure Shown where
  exitStatus : Nat
  /-- The lines of the log. -/
  log : List String
  /-- The other lines of output. -/
  looseOutput : List String
  complaint : String
  /-- The files that are left. -/
  files : FileTree Content

section

variable [OptionOrder]

/-- What is shown of a run that ends with an outcome and leaves a world. -/
def shown (finished : Outcome × World) : Shown where
  exitStatus := finished.1.exitStatus
  log := finished.1.log finished.2.journal
  looseOutput := finished.1.looseOutput finished.2.journal
  complaint := finished.1.complaint
  files := finished.2.tree

/-- Runs with the same outcome, the same files and the same lines show the same. -/
theorem shown_congr {first second : Outcome × World} (houtcome : first.1 = second.1)
    (htree : first.2.tree = second.2.tree)
    (hlines : first.2.journal.map Event.line = second.2.journal.map Event.line) :
    shown first = shown second := by
  have hlog : second.1.log first.2.journal = second.1.log second.2.journal := by
    have hsplit := congrArg (List.flatMap fun line : String =>
      (line.splitOn "\n").headD "" :: (line.splitOn "\n").tail.filterMap LogLine.ofText?) hlines
    rw [List.flatMap_map, List.flatMap_map] at hsplit
    exact congrArg (· ++ second.1.closingLines.filterMap LogLine.ofText?) hsplit
  have hfurther : first.2.journal.flatMap Event.furtherLines =
      second.2.journal.flatMap Event.furtherLines := by
    have hsplit := congrArg (List.flatMap fun line : String => (line.splitOn "\n").tail) hlines
    rwa [List.flatMap_map, List.flatMap_map] at hsplit
  unfold shown Outcome.looseOutput
  rw [houtcome, htree, hlog, hfurther]

end

/-- A scenario on an object store has the same answer and records the same events for all worlds and
for all modes with which it does the same; only its start names the mode. -/
theorem exists_start_carryOut [Engine] (scenario : Scenario) (store : ObjectStore) (clock : Clock) :
    ∃ answer events, ∀ mode, scenario.run mode clock = scenario.run (.objectStore store) clock →
      ∀ world : World, (carryOut scenario mode clock).start world =
        (answer, { world with
          journal := world.journal ++ [.starting mode scenario.table] ++ events }) := by
  obtain ⟨answer, events, hrest⟩ := (scenario.onlyRecords_run store clock).bind fun report =>
    (Run.onlyRecords_record (.done report.appendVersions report.rowsDeleted
      report.checkpointVersion report.summary.rows)).bind fun _ => Run.onlyRecords_pure report
  refine ⟨answer, events, fun mode hmode world => ?_⟩
  have hstart : (Run.record (.starting mode scenario.table)).start world =
    (.ok (), { world with journal := world.journal ++ [.starting mode scenario.table] }) := rfl
  rw [carryOut, Run.start_bind, hstart, hmode]
  exact hrest _

/-- Modes that differ in credentials only lead a scenario to the same answer, the same files and the
same lines. -/
theorem exists_start_carryOut_of_withoutSecrets [Engine] [OptionOrder] {mode mode' : StorageMode}
    (h : mode.withoutSecrets = mode'.withoutSecrets) (scenario : Scenario) (clock : Clock)
    (world : World) :
    ∃ answer after after', (carryOut scenario mode clock).start world = (answer, after) ∧
      (carryOut scenario mode' clock).start world = (answer, after') ∧
      after.tree = after'.tree ∧
      after.journal.map Event.line = after'.journal.map Event.line := by
  have hrun : scenario.run mode' clock = scenario.run mode clock := by
    rw [← scenario.run_withoutSecrets mode', ← h, scenario.run_withoutSecrets]
  cases mode with
  | localFiles =>
    cases mode' with
    | localFiles => exact ⟨_, _, _, rfl, rfl, rfl, rfl⟩
    | objectStore store' => cases h
  | objectStore store =>
    have hword : (StorageMode.objectStore store).word = mode'.word := by
      rw [← StorageMode.word_withoutSecrets, h, StorageMode.word_withoutSecrets]
    obtain ⟨answer, events, hstart⟩ := exists_start_carryOut scenario store clock
    refine ⟨answer, _, _, hstart _ rfl world, hstart mode' hrun world, rfl, ?_⟩
    simp only [List.map_append, List.map_singleton, Event.line_starting hword]

/-- Environments that differ in credentials only, and agree on whether there is an access key, make
the program show the same and leave the same files. -/
theorem shown_eq_of_credentials [Engine] [OptionOrder] (argv : List String)
    {env env' : Environment} (clock : Clock) (world : World)
    (hothers : ∀ name, name ≠ "AWS_ACCESS_KEY_ID" → name ≠ "AWS_SECRET_ACCESS_KEY" →
      env name = env' name)
    (hkey : env.nonEmpty? "AWS_ACCESS_KEY_ID" = none ↔ env'.nonEmpty? "AWS_ACCESS_KEY_ID" = none) :
    shown (run argv env clock world) = shown (run argv env' clock world) := by
  have hothers' : ∀ name, name ∉ StorageMode.secretNames → env name = env' name := by
    intro name hname
    simp only [StorageMode.secretNames, List.mem_cons, List.not_mem_nil, or_false, not_or] at hname
    exact hothers name hname.1 hname.2
  have hmode := StorageMode.withoutSecrets_ofEnvironment hothers' hkey
  have hpath : ∀ arguments : Arguments,
      arguments.configPath env = arguments.configPath env' := fun arguments => by
    rw [Arguments.configPath, hothers' _ (by decide), Arguments.configPath]
  have hscenario : ∀ arguments tree home, Scenario.ofArguments arguments env tree home =
      Scenario.ofArguments arguments env' tree home := fun arguments tree home => by
    rw [Scenario.ofArguments, hpath, Scenario.ofArguments]
  unfold run
  cases Arguments.ofList argv with
  | error fault => rfl
  | ok arguments =>
    simp only [hpath, hscenario]
    cases Scenario.ofArguments arguments env' world.tree world.home with
    | error fault => rfl
    | ok scenario =>
      obtain ⟨answer, after, after', hrun, hrun', htree, hlines⟩ :=
        exists_start_carryOut_of_withoutSecrets hmode scenario clock
          { world with
            journal := world.journal ++ [.loadingConfiguration (arguments.configPath env')] }
      simp only [hrun, hrun']
      cases answer with
      | ok report => exact shown_congr rfl htree hlines
      | error failure =>
        cases failure with
        | abort abort => exact shown_congr rfl htree hlines
        | fault fault =>
          refine shown_congr rfl htree ?_
          simp only [fail, List.map_append, hlines]

/-- Two stores with other keys, one of them without a secret. -/
theorem shown_eq_of_credentials_other_keys :
    let env := Environment.ofList [("AWS_ACCESS_KEY_ID", "first"),
      ("AWS_SECRET_ACCESS_KEY", "hidden"), ("S3_BUCKET", "lake")]
    let env' := Environment.ofList [("AWS_ACCESS_KEY_ID", "second"), ("S3_BUCKET", "lake")]
    (∀ name, name ≠ "AWS_ACCESS_KEY_ID" → name ≠ "AWS_SECRET_ACCESS_KEY" →
      env name = env' name) ∧
    (env.nonEmpty? "AWS_ACCESS_KEY_ID" = none ↔ env'.nonEmpty? "AWS_ACCESS_KEY_ID" = none) ∧
    StorageMode.ofEnvironment env ≠ StorageMode.ofEnvironment env' ∧
    shown (run ["--table", "t"] env (fun _ => .ofParts 0 0) .fresh) =
      shown (run ["--table", "t"] env' (fun _ => .ofParts 0 0) .fresh) := by
  intro env env'
  have hothers : ∀ name, name ≠ "AWS_ACCESS_KEY_ID" → name ≠ "AWS_SECRET_ACCESS_KEY" →
      env name = env' name := by
    intro name haccess hsecret
    have haccess' : (name == "AWS_ACCESS_KEY_ID") = false := beq_eq_false_iff_ne.mpr haccess
    have hsecret' : (name == "AWS_SECRET_ACCESS_KEY") = false := beq_eq_false_iff_ne.mpr hsecret
    simp only [env, env', Environment.ofList, List.lookup_cons, haccess', hsecret']
  exact ⟨hothers, by decide, by decide, shown_eq_of_credentials _ _ _ hothers (by decide)⟩

end Program

end LogTable
