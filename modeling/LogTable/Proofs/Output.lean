import LogTable.Proofs.Journal
import LogTable.Proofs.Secrecy
import LogTable.Proofs.Table.Failures

/-!
# Output of the program

What a run of the program shows, as long as the names that it is given have no line breaks.  A run
that succeeds shows one line of output, and in the log a line for each batch
(`Program.Shown.IsSuccess`); a run that fails shows the words of its failure twice, on its own and
in the last line of the log (`Program.Shown.IsFailure`).  Main statement: `Program.shown_run`.
-/

namespace LogTable

open Predicate

/-! ### Addresses and messages without line breaks -/

theorem isOneLine_trimSlashes {text : String} (h : IsOneLine text) :
    IsOneLine (trimSlashes text) := by
  refine h.of_subset fun c hc => ?_
  simp only [trimSlashes, String.toList_ofList, List.mem_reverse] at hc
  exact (List.dropWhile_subset _) (List.mem_reverse.mp ((List.dropWhile_subset _) hc))

theorem isOneLine_joinPath {root name : String} (hroot : IsOneLine root) (hname : IsOneLine name) :
    IsOneLine (joinPath root name) := by
  unfold joinPath
  split_ifs
  · exact hname
  · exact hname
  · exact hroot.append hname
  · exact (hroot.append (by decide +kernel)).append hname

namespace StorageMode

variable {mode : StorageMode} {name root uri : String}

/-- The bucket of an object store has no line break. -/
def HasOneLineBucket (mode : StorageMode) : Prop :=
  ∀ store, mode = objectStore store → IsOneLine store.bucket

theorem isOneLine_of_tableUri (hname : IsOneLine name) (hroot : IsOneLine root)
    (hbucket : mode.HasOneLineBucket) (huri : mode.tableUri name root = .ok uri) :
    IsOneLine uri := by
  have hname := isOneLine_trimSlashes hname
  simp only [tableUri] at huri
  split_ifs at huri
  cases mode with
  | localFiles =>
    obtain rfl := Except.ok.inj huri
    exact (isOneLine_joinPath hroot hname).append (by decide +kernel)
  | objectStore store =>
    simp only at huri
    split_ifs at huri
    obtain rfl := Except.ok.inj huri
    exact ((IsOneLine.append (by decide +kernel) (hbucket store rfl)).field (by decide +kernel)
      hname).append (by decide +kernel)

theorem hasOneLineBucket_ofEnvironment {env : Environment}
    (h : IsOneLine (env.textOf StorageVariable.bucket.name)) :
    (ofEnvironment env).HasOneLineBucket := by
  intro store hstore
  unfold ofEnvironment at hstore
  split at hstore
  · cases hstore
  · cases hstore
    exact h

end StorageMode

theorem PathFault.isOneLine_message (fault : PathFault) : IsOneLine fault.message := by
  cases fault <;> decide

/-- The words of a failure, if it has any, have no line break. -/
def Failure.IsOneLine : Failure → Prop
  | .fault cause => LogTable.IsOneLine cause.message
  | .abort _ => True

theorem isOneLine_settings {fault : SettingsFault} (h : IsOneLine fault.message) :
    IsOneLine (Fault.settings fault).message :=
  IsOneLine.append (by decide +kernel) h

theorem SettingsFault.isOneLine_rowOutOfRange (row : Nat) : IsOneLine (rowOutOfRange row).message :=
  (IsOneLine.append (by decide +kernel) (isOneLine_repr row)).append (by decide +kernel)

theorem Fault.isOneLine_files {path : String} (h : IsOneLine path) (fault : PathFault) :
    IsOneLine (files path fault).message :=
  (IsOneLine.append (by decide +kernel) h).field (by decide +kernel) fault.isOneLine_message

theorem Failure.IsOfTable.isOneLine {failure : Failure} (h : failure.IsOfTable) :
    failure.IsOneLine := by
  have hactivity : ∀ during : Activity, LogTable.IsOneLine (Fault.table during).message := by
    intro during
    cases during <;> decide
  have hcheckpoint : LogTable.IsOneLine Fault.checkpoint.message := by decide
  have hscan : LogTable.IsOneLine Fault.scan.message := by decide
  cases failure with
  | abort _ => exact True.intro
  | fault cause =>
    cases cause with
    | table during => exact hactivity during
    | checkpoint => exact hcheckpoint
    | scan => exact hscan
    | settings _ => exact h.elim
    | files _ _ => exact h.elim

/-- A name without line breaks that has no address is refused in one line. -/
theorem StorageMode.isOneLine_message_of_tableUri {mode : StorageMode} {name root : String}
    {fault : SettingsFault} (hname : IsOneLine name) (h : mode.tableUri name root = .error fault) :
    IsOneLine fault.message := by
  have hname := isOneLine_trimSlashes hname
  simp only [tableUri] at h
  split_ifs at h
  · cases h
    decide
  · cases h
    exact IsOneLine.append (by decide +kernel) hname
  · cases mode with
    | localFiles => cases h
    | objectStore store =>
      simp only at h
      split_ifs at h
      cases h
      decide

/-- The instants of a batch are missing for a row only. -/
theorem Batch.isOneLine_of_stamps {start : Instant} {count : Nat} {fault : SettingsFault}
    (h : stamps start count = .error fault) : IsOneLine fault.message := by
  obtain ⟨row, -, hrow⟩ := exists_of_mapM_eq_error h
  split at hrow
  · cases hrow
  · cases hrow
    exact SettingsFault.isOneLine_rowOutOfRange row

/-- A batch that cannot be generated fails in one line. -/
theorem Batch.isOneLine_of_generate {start : Int64} {count : Nat} {time : Instant}
    {message : String} {failure : Failure}
    (h : generate start count time message = .error failure) :
    failure.IsOneLine := by
  cases h ▸ generated start count time message with
  | noIds _ => trivial
  | tooMany _ _ => trivial
  | noStamps _ _ hstamps => exact isOneLine_settings (isOneLine_of_stamps hstamps)
  | tooLong _ _ _ _ => trivial

/-! ### Failures of scenarios -/

/-- An abort has no words that would have to fit into a line. -/
theorem failsOnly_ofExcept_abort {α : Type} (answer : Except Abort α) :
    (Run.ofExcept (answer.mapError Failure.abort)).FailsOnly Failure.IsOneLine := by
  cases answer with
  | ok a => exact Run.failsOnly_pure a
  | error abort => exact Run.failsOnly_throw True.intro

/-- A removal fails in one line. -/
theorem StorageMode.resetLocal_failsOnly_isOneLine {uri : String} (h : IsOneLine uri)
    (storage : StorageMode) : (storage.resetLocal uri).FailsOnly Failure.IsOneLine := by
  cases storage with
  | objectStore store => exact Run.failsOnly_pure false
  | localFiles =>
    intro world failure after hrun
    rw [start_resetLocal] at hrun
    split at hrun
    · cases hrun
    · cases hrun
    · cases hrun
      exact Fault.isOneLine_files h _

namespace Scenario

variable {uri : String} {storage : StorageMode}

theorem appendBatches_failsOnly_isOneLine (scenario : Scenario) (clock : Clock) (b : Nat)
    (starts : List Int64) :
    (scenario.appendBatches ⟨uri⟩ clock b starts).FailsOnly Failure.IsOneLine := by
  induction starts generalizing b with
  | nil => exact Run.failsOnly_pure []
  | cons start starts ih =>
    exact (Run.failsOnly_ofExcept fun _ => Batch.isOneLine_of_generate).bind fun rows =>
      ((Table.append_failsOnly ⟨uri⟩ rows _).mono fun _ =>
        Failure.IsOfTable.isOneLine).bind fun _ =>
      (ih (b + 1)).bind fun _ => Run.failsOnly_pure _

theorem finish_failsOnly_isOneLine [Engine] (scenario : Scenario) (versions : List Nat) :
    (scenario.finish uri versions).FailsOnly Failure.IsOneLine := by
  have hdelete : (scenario.deleteRows ⟨uri⟩).FailsOnly Failure.IsOfTable := by
    unfold deleteRows
    split
    · exact (Table.delete_failsOnly _ _).bind fun _ => Run.failsOnly_pure _
    · exact Run.failsOnly_pure _
  have hcheckpoint : (scenario.writeCheckpoint ⟨uri⟩).FailsOnly Failure.IsOfTable := by
    unfold writeCheckpoint
    split_ifs
    · exact (Table.checkpoint_failsOnly _).bind fun _ => Run.failsOnly_pure _
    · exact Run.failsOnly_pure _
  have hsummary : (Table.summary ⟨uri⟩).FailsOnly Failure.IsOfTable :=
    (Table.scan_failsOnly _).bind fun _ => Run.failsOnly_pure _
  have htotal : (Run.ofExcept (scenario.plan.totalRows.mapError Failure.abort)).FailsOnly
      Failure.IsOneLine := failsOnly_ofExcept_abort _
  exact (hdelete.mono fun _ => Failure.IsOfTable.isOneLine).bind fun _ =>
    (hcheckpoint.mono fun _ => Failure.IsOfTable.isOneLine).bind fun _ =>
    (hsummary.mono fun _ => Failure.IsOfTable.isOneLine).bind fun _ =>
    htotal.bind fun _ => (Run.failsOnly_record _).bind fun _ => Run.failsOnly_pure _

/-- A scenario whose names have no line breaks fails in one line. -/
theorem run_failsOnly_isOneLine [Engine] (scenario : Scenario) (clock : Clock)
    (htable : IsOneLine scenario.table) (hroot : IsOneLine scenario.localRoot)
    (hbucket : storage.HasOneLineBucket) :
    (scenario.run storage clock).FailsOnly Failure.IsOneLine := by
  cases huri : storage.tableUri scenario.table scenario.localRoot with
  | error fault =>
    have hfault := isOneLine_settings (StorageMode.isOneLine_message_of_tableUri htable huri)
    unfold run
    rw [huri]
    exact Run.failsOnly_throw_bind hfault _
  | ok uri =>
    have hremove : (scenario.removeTable storage uri).FailsOnly Failure.IsOneLine := by
      unfold removeTable
      split_ifs
      · exact (storage.resetLocal_failsOnly_isOneLine
          (StorageMode.isOneLine_of_tableUri htable hroot hbucket huri)).bind fun _ =>
            Run.failsOnly_pure _
      · exact Run.failsOnly_pure _
    rw [scenario.run_of_tableUri clock huri]
    exact (Run.failsOnly_record _).bind fun _ => hremove.bind fun _ =>
      (failsOnly_ofExcept_abort _).bind fun starts =>
      (scenario.appendBatches_failsOnly_isOneLine clock 0 starts).bind fun versions =>
      scenario.finish_failsOnly_isOneLine versions

end Scenario

/-! ### Failures of settings -/

theorem ConfigFault.beforeColon_subset (cs : List Char) : beforeColon cs ⊆ cs := by
  fun_induction beforeColon cs with
  | case1 => exact List.Subset.refl _
  | case2 => exact List.nil_subset _
  | case3 c rest _ ih => exact List.cons_subset_cons c ih

/-- Settings that are not found because of the file at a path are refused in one line. -/
theorem Settings.isOneLine_message_of_ofFile {tree : FileTree Content} {home : Location}
    {path : String} {fault : ConfigFault} (hpath : IsOneLine path)
    (h : ofFile tree home path = .error fault) : IsOneLine fault.message := by
  have hmalformed : IsOneLine (ConfigFault.malformed path).message := by
    have hshown : IsOneLine (path ++ ": ") := hpath.append (by decide +kernel)
    refine IsOneLine.append (by decide +kernel) (hshown.of_subset ?_)
    rw [String.toList_ofList]
    exact ConfigFault.beforeColon_subset _
  have hunreadable : ∀ isDirectory,
      IsOneLine (ConfigFault.unreadable path isDirectory).message := by
    intro isDirectory
    cases isDirectory with
    | true =>
      exact ((IsOneLine.append (by decide +kernel) hpath).append (by decide +kernel)).append
        (PathFault.isOneLine_message _)
    | false => exact (IsOneLine.append (by decide +kernel) hpath).append (by decide +kernel)
  unfold ofFile at h
  split at h
  · cases h
  · split at h
    · cases h
    · cases h
      exact hunreadable true
    · split at h
      · cases h
        exact hunreadable false
      · split at h
        · cases h
          exact hmalformed
        · rename_i document _
          cases hdocument : ofDocument document with
          | ok settings => simp [hdocument, Except.mapError] at h
          | error shape =>
            simp only [hdocument, Except.mapError] at h
            cases h
            exact hmalformed

theorem BatchPlan.isOneLine_message_of_ofCounts {batches rows : UInt64} {fault : SettingsFault}
    (h : ofCounts batches rows = .error fault) : IsOneLine fault.message := by
  unfold ofCounts at h
  split_ifs at h
  · cases h
    decide
  · cases h
    decide

/-- Settings that make no scenario together are refused in one line. -/
theorem Scenario.isOneLine_message_of_ofSources {arguments : Arguments} {settings : Settings}
    {fault : ConfigFault} (h : ofSources arguments settings = .error fault) :
    IsOneLine fault.message := by
  have hblank : IsOneLine ConfigFault.blankPredicate.message := by decide
  simp only [ofSources] at h
  generalize hplan : BatchPlan.ofCounts _ _ = plan at h
  cases plan with
  | error cause =>
    cases h
    exact isOneLine_settings (BatchPlan.isOneLine_message_of_ofCounts hplan)
  | ok plan =>
    simp only [Except.mapError, bind, Except.bind] at h
    split at h
    · cases h
      exact hblank
    · cases h

/-- A run that finds no scenario says so in one line. -/
theorem Scenario.isOneLine_message_of_ofArguments {arguments : Arguments} {env : Environment}
    {tree : FileTree Content} {home : Location} {fault : ConfigFault}
    (hpath : IsOneLine (arguments.configPath env))
    (h : ofArguments arguments env tree home = .error fault) : IsOneLine fault.message := by
  unfold ofArguments at h
  cases hsettings : Settings.ofFile tree home (arguments.configPath env) with
  | error cause =>
    rw [hsettings] at h
    cases h
    exact Settings.isOneLine_message_of_ofFile hpath hsettings
  | ok settings =>
    rw [hsettings] at h
    exact isOneLine_message_of_ofSources h

/-! ### Accounts -/

/-- The event shows in one line, and is neither an append nor a failure. -/
def Event.IsPlain [OptionOrder] (event : Event) : Prop :=
  IsOneLine event.line ∧ event.isAppend = false ∧ event.isFailure = false

theorem Event.IsQuiet.isPlain [OptionOrder] {uri : String} {event : Event} (h : event.IsQuiet uri)
    (huri : IsOneLine uri) : event.IsPlain := by
  refine ⟨isOneLine_line fun text htext => ?_, h.2⟩
  obtain rfl : text = uri := List.mem_singleton.mp (h.1 htext)
  exact huri

/-- The journal notes appends with the given versions in order, between plain events. -/
def IsAccount [OptionOrder] (uri : String) (rows : Nat) (versions : List Nat)
    (journal : List Event) : Prop :=
  ∃ front back,
    journal = front ++ versions.map (fun version => .batchAppended uri version rows) ++ back ∧
    (∀ event ∈ front, event.IsPlain) ∧ ∀ event ∈ back, event.IsPlain

namespace IsAccount

variable [OptionOrder] {uri : String} {rows : Nat} {versions : List Nat} {journal : List Event}

theorem of_plain (uri : String) (rows : Nat) (h : ∀ event ∈ journal, event.IsPlain) :
    IsAccount uri rows [] journal :=
  ⟨journal, [], by simp, h, by simp⟩

/-- What notes appends after plain events makes an account. -/
theorem of_notesAppends {before after : World} (hplain : ∀ event ∈ before.journal, event.IsPlain)
    (huri : IsOneLine uri) (h : before.NotesAppends uri rows versions after) :
    IsAccount uri rows versions after.journal := by
  obtain ⟨front, back, hjournal, hfront, hback⟩ := h
  exact ⟨before.journal ++ front, back, hjournal,
    List.forall_mem_append.mpr ⟨hplain, fun event hmem => (hfront event hmem).isPlain huri⟩,
    fun event hmem => (hback event hmem).isPlain huri⟩

theorem append_plain (h : IsAccount uri rows versions journal) {event : Event}
    (hevent : event.IsPlain) : IsAccount uri rows versions (journal ++ [event]) := by
  obtain ⟨front, back, rfl, hfront, hback⟩ := h
  exact ⟨front, back ++ [event], by simp, hfront,
    List.forall_mem_append.mpr ⟨hback, List.forall_mem_singleton.mpr hevent⟩⟩

/-- Each event of an account shows in one line and is no failure. -/
theorem isOneLine_line (h : IsAccount uri rows versions journal) (huri : IsOneLine uri) :
    ∀ event ∈ journal, IsOneLine event.line ∧ event.isFailure = false := by
  obtain ⟨front, back, rfl, hfront, hback⟩ := h
  intro event hmem
  rcases List.mem_append.mp hmem with hmem | hmem
  · rcases List.mem_append.mp hmem with hmem | hmem
    · exact ⟨(hfront event hmem).1, (hfront event hmem).2.2⟩
    · obtain ⟨version, -, rfl⟩ := List.mem_map.mp hmem
      exact ⟨Event.isOneLine_line (List.forall_mem_singleton.mpr huri), rfl⟩
  · exact ⟨(hback event hmem).1, (hback event hmem).2.2⟩

/-- The appends of an account are exactly the ones that it notes. -/
theorem filter_isAppend (h : IsAccount uri rows versions journal) :
    journal.filter Event.isAppend =
      versions.map fun version => .batchAppended uri version rows := by
  obtain ⟨front, back, rfl, hfront, hback⟩ := h
  have hnone : ∀ events : List Event, (∀ event ∈ events, event.IsPlain) →
      events.filter Event.isAppend = [] := by
    intro events hplain
    refine List.filter_eq_nil_iff.mpr fun event hmem => ?_
    simp [(hplain event hmem).2.1]
  have hall : (versions.map fun version => Event.batchAppended uri version rows).filter
      Event.isAppend = versions.map fun version => .batchAppended uri version rows := by
    refine List.filter_eq_self.mpr fun event hmem => ?_
    obtain ⟨version, -, rfl⟩ := List.mem_map.mp hmem
    rfl
  rw [List.filter_append, List.filter_append, hnone front hfront, hnone back hback, hall,
    List.nil_append, List.append_nil]

/-- The lines of appends in the log are the ones of the noted appends. -/
theorem filter_isAppendLine (h : IsAccount uri rows versions journal) :
    (journal.map Event.line).filter isAppendLine =
      versions.map fun version => (Event.batchAppended uri version rows).line := by
  have hline : isAppendLine ∘ Event.line = Event.isAppend :=
    funext Event.isAppendLine_line
  rw [List.filter_map, hline, h.filter_isAppend, List.map_map]
  rfl

/-- No line of an account is one of a failure. -/
theorem not_isErrorLine (h : IsAccount uri rows versions journal) (huri : IsOneLine uri) :
    ∀ line ∈ journal.map Event.line, isErrorLine line = false := by
  intro line hmem
  obtain ⟨event, hevent, rfl⟩ := List.mem_map.mp hmem
  rw [Event.isErrorLine_line, (h.isOneLine_line huri event hevent).2]

end IsAccount

/-- After plain events a scenario keeps an account of its appends, and fails in one line if it does.
-/
theorem Scenario.run_ensures_account [Engine] [OptionOrder] (scenario : Scenario)
    {storage : StorageMode} (clock : Clock) (htable : IsOneLine scenario.table)
    (hroot : IsOneLine scenario.localRoot) (hbucket : storage.HasOneLineBucket) {world : World}
    (hplain : ∀ event ∈ world.journal, event.IsPlain) :
    (scenario.run storage clock).Ensures world
      (fun report after => storage.tableUri scenario.table scenario.localRoot = .ok report.uri ∧
        IsOneLine report.uri ∧
        report.appendVersions = scenario.returnedVersions storage clock world ∧
        report.appendVersions.length = scenario.plan.batches.toNat ∧
        IsAccount report.uri scenario.plan.rowsPerBatch.toNat report.appendVersions after.journal)
      fun failure after => failure.IsOneLine ∧ ∃ uri, IsOneLine uri ∧
        IsAccount uri scenario.plan.rowsPerBatch.toNat
          (scenario.returnedVersions storage clock world) after.journal := by
  have hfails := scenario.run_failsOnly_isOneLine clock htable hroot hbucket
  cases huri : storage.tableUri scenario.table scenario.localRoot with
  | error fault =>
    have hnone : scenario.returnedVersions storage clock world = [] := by
      simp only [returnedVersions, huri]
    have hrun : (scenario.run storage clock).start world =
        (.error (.settings fault), world) := by
      unfold run
      rw [huri]
      rfl
    rw [hnone]
    exact Run.ensures_of_start_error hrun
      ⟨hfails world _ _ hrun, "", by decide, .of_plain _ _ hplain⟩
  | ok uri =>
    have hone := StorageMode.isOneLine_of_tableUri htable hroot hbucket huri
    refine ((scenario.run_ensures_journals huri world).failsOnly hfails).mono ?_ ?_
    · rintro report after ⟨rfl, hversions, hlength, hnotes⟩
      exact ⟨rfl, hone, hversions, hlength, .of_notesAppends hplain hone hnotes⟩
    · rintro failure after ⟨hnotes, hfailure⟩
      exact ⟨hfailure, uri, hone, .of_notesAppends hplain hone hnotes⟩

/-- What a scenario answers does not depend on what has been recorded before. -/
theorem Scenario.fst_start_run_congr [Engine] (scenario : Scenario) (storage : StorageMode)
    (clock : Clock) {first second : World} (h : first.SameView second) :
    ((scenario.run storage clock).start first).1 =
      ((scenario.run storage clock).start second).1 := by
  cases huri : storage.tableUri scenario.table scenario.localRoot with
  | error fault =>
    unfold run
    rw [huri]
    rfl
  | ok uri => exact (scenario.alike_run (Operations.areAlike_sameView storage uri) clock huri h).1

/-! ### What is shown -/

namespace Outcome

variable [OptionOrder] {journal : List Event}

/-- Events in one line each are logged as these lines, with what comes behind the log. -/
theorem log_eq (h : ∀ event ∈ journal, IsOneLine event.line) (outcome : Outcome) :
    outcome.log journal =
      journal.map Event.line ++ outcome.closingLines.filterMap LogLine.ofText? := by
  have hlines : (journal.flatMap fun event =>
      event.logLine :: event.furtherLines.filterMap LogLine.ofText?) = journal.map Event.line := by
    rw [List.map_eq_flatMap]
    refine List.flatMap_congr fun event hmem => ?_
    rw [Event.logLine_eq_line (h event hmem), Event.furtherLines_eq_nil (h event hmem),
      List.filterMap_nil]
  rw [log, hlines]

/-- A further line of an event that has the shape of a line of the log stands in the log, in front
of the lines of the next event. -/
theorem mem_of_log_eq (front : List Event) {back : List Event} {event next : Event}
    {outcome : Outcome} {line last : String} {others : List String}
    (hline : line ∈ event.furtherLines.filterMap LogLine.ofText?)
    (hlog : outcome.log (front ++ event :: next :: back) = others ++ [last]) : line ∈ others := by
  let shownFor (event : Event) : List String :=
    event.logLine :: event.furtherLines.filterMap LogLine.ofText?
  let behind := shownFor next ++ back.flatMap shownFor ++
    outcome.closingLines.filterMap LogLine.ofText?
  have hsplit : outcome.log (front ++ event :: next :: back) =
      front.flatMap shownFor ++ shownFor event ++ behind := by
    simp only [log, List.flatMap_append, List.flatMap_cons, List.append_assoc, behind, shownFor]
  have hbehind : behind ≠ [] := List.cons_ne_nil _ _
  have hothers : others = front.flatMap shownFor ++ shownFor event ++ behind.dropLast := by
    have hsame := congrArg List.dropLast (hlog.symm.trans hsplit)
    rwa [List.dropLast_concat, List.dropLast_append_of_ne_nil hbehind] at hsame
  rw [hothers]
  exact List.mem_append_left _ (List.mem_append_right _ (List.mem_cons_of_mem _ hline))

/-- Besides the log, events in one line each leave what comes behind the log. -/
theorem looseOutput_eq (h : ∀ event ∈ journal, IsOneLine event.line) (outcome : Outcome) :
    outcome.looseOutput journal =
      outcome.closingLines.filter fun line => (LogLine.ofText? line).isNone := by
  have hnothing : journal.flatMap Event.furtherLines = [] :=
    List.flatMap_eq_nil_iff.mpr fun event hmem => Event.furtherLines_eq_nil (h event hmem)
  rw [looseOutput, hnothing, List.nil_append]

end Outcome

namespace Program

/-- What is shown of a run that succeeds: a line of output, and in the log a line for each batch,
with versions that follow one another. -/
structure Shown.IsSuccess [OptionOrder] (shown : Shown) (uri : String) (batches rows : Nat) :
    Prop where
  exitStatus_eq : shown.exitStatus = 0
  looseOutput_eq : shown.looseOutput =
    [s!"Data written to Delta Lake at '{uri}' in " ++ s!"{batches} batches successfully!"]
  complaint_eq : shown.complaint = ""
  no_error : ∀ line ∈ shown.log, isErrorLine line = false
  appends : ∃ first, shown.log.filter isAppendLine =
    (List.range' first batches).map fun version => (Event.batchAppended uri version rows).line

/-- What is shown of a run that fails: the words of the failure, on their own and in the last line
of the log, and in the log a line for each append that has returned a version. -/
structure Shown.IsFailure (shown : Shown) (message : String) (appends : Nat) : Prop where
  exitStatus_eq : shown.exitStatus = 1
  looseOutput_eq : shown.looseOutput = []
  complaint_eq : shown.complaint = "Error: " ++ message
  exists_log : ∃ front,
    shown.log = front ++ ["ERROR lake_demo: lake-demo failed error=" ++ message] ∧
    ∀ line ∈ front, isErrorLine line = false
  appends_eq : (shown.log.filter isAppendLine).length = appends

/-- After an account, a failure is shown as one. -/
theorem isFailure_fail [OptionOrder] {uri : String} {rows : Nat} {versions : List Nat}
    {world : World} {message : String} (h : IsAccount uri rows versions world.journal)
    (huri : IsOneLine uri) (hmessage : IsOneLine message) :
    (shown (fail message world)).IsFailure message versions.length := by
  have hline : IsOneLine (Event.failed message).line :=
    Event.isOneLine_line (List.forall_mem_singleton.mpr hmessage)
  have hlines : ∀ event ∈ world.journal ++ [.failed message], IsOneLine event.line :=
    List.forall_mem_append.mpr ⟨fun event hmem => (h.isOneLine_line huri event hmem).1,
      List.forall_mem_singleton.mpr hline⟩
  have hlog : (shown (fail message world)).log =
      world.journal.map Event.line ++ ["ERROR lake_demo: lake-demo failed error=" ++ message] := by
    have hclosing : (Outcome.failed message).closingLines = [] := rfl
    refine (Outcome.log_eq hlines (.failed message)).trans ?_
    rw [hclosing, List.filterMap_nil, List.append_nil, List.map_append]
    rfl
  refine ⟨rfl, Outcome.looseOutput_eq hlines _, rfl, ⟨_, hlog, h.not_isErrorLine huri⟩, ?_⟩
  have hnone : isAppendLine ("ERROR lake_demo: lake-demo failed error=" ++ message) = false :=
    Event.isAppendLine_line (.failed message)
  rw [hlog, List.filter_append, h.filter_isAppendLine, List.filter_cons_of_neg (by simp [hnone])]
  simp

/-- After an account of the appends that a report names, the report is shown as a success. -/
theorem isSuccess_succeeded [OptionOrder] {uri : String} {rows : Nat} {report : ScenarioReport}
    {world : World} (h : IsAccount uri rows report.appendVersions world.journal)
    (huri : IsOneLine uri) (hreport : report.uri = uri)
    (hversions : ∃ first, report.appendVersions = List.range' first report.appendVersions.length) :
    (shown (.succeeded (successLine report), world)).IsSuccess uri report.appendVersions.length
      rows := by
  obtain ⟨first, hversions⟩ := hversions
  have hline : IsOneLine (successLine report) := by
    have hfront : IsOneLine s!"Data written to Delta Lake at '{report.uri}' in " :=
      (IsOneLine.append (by decide +kernel) (hreport ▸ huri)).append (by decide +kernel)
    exact hfront.append ((isOneLine_repr _).append (by decide +kernel))
  have hclosing : (Outcome.succeeded (successLine report)).closingLines = [successLine report] :=
    hline.splitOn_eq
  have hnone : LogLine.ofText? (successLine report) = none := by
    have hdata : ['D'] <+: "Data written to Delta Lake at '".toList := by decide +kernel
    refine LogLine.ofText?_eq_none ?_ (show 'D'.isDigit = false by decide)
    unfold successLine
    simp only [String.toList_append, List.append_assoc]
    exact hdata.trans (List.prefix_append _ _)
  have hlines : ∀ event ∈ world.journal, IsOneLine event.line :=
    fun event hmem => (h.isOneLine_line huri event hmem).1
  have hlog : (shown (.succeeded (successLine report), world)).log =
      world.journal.map Event.line := by
    refine (Outcome.log_eq hlines _).trans ?_
    simp [hclosing, hnone]
  have hloose : (shown (.succeeded (successLine report), world)).looseOutput =
      [successLine report] := by
    refine (Outcome.looseOutput_eq hlines _).trans ?_
    simp [hclosing, hnone]
  refine ⟨rfl, ?_, rfl, ?_, first, ?_⟩
  · subst hreport
    exact hloose
  · rw [hlog]
    exact h.not_isErrorLine huri
  · rw [hlog, h.filter_isAppendLine, ← hversions]

/-- The settings of a run are found, and its scenario succeeds with a report. -/
def Succeeds [Engine] (arguments : Arguments) (env : Environment) (clock : Clock) (world : World)
    (scenario : Scenario) (report : ScenarioReport) : Prop :=
  Scenario.ofArguments arguments env world.tree world.home = .ok scenario ∧
    ((scenario.run (.ofEnvironment env) clock).start world).1 = .ok report

/-- A run fails with a message: no scenario is found, or the scenario fails after as many appends
have returned a version. -/
inductive Fails [Engine] (arguments : Arguments) (env : Environment) (clock : Clock)
    (world : World) : (message : String) → (appends : Nat) → Prop where
  | settings {fault : ConfigFault}
    (h : Scenario.ofArguments arguments env world.tree world.home = .error fault) :
    Fails arguments env clock world fault.message 0
  | scenario {scenario : Scenario} {fault : Fault}
    (h : Scenario.ofArguments arguments env world.tree world.home = .ok scenario)
    (hrun : ((scenario.run (.ofEnvironment env) clock).start world).1 = .error (.fault fault)) :
    Fails arguments env clock world fault.message
      (scenario.returnedVersions (.ofEnvironment env) clock world).length

section Run

variable {argv : List String} {arguments : Arguments} {env : Environment} {clock : Clock}
  {world : World}

theorem Succeeds.scenario_eq [Engine] {scenario scenario' : Scenario}
    {report report' : ScenarioReport} (h : Succeeds arguments env clock world scenario report)
    (h' : Succeeds arguments env clock world scenario' report') : scenario = scenario' :=
  Except.ok.inj (h.1.symm.trans h'.1)

/-- No run both fails and succeeds. -/
theorem Fails.not_succeeds [Engine] {message : String} {appends : Nat} {scenario : Scenario}
    {report : ScenarioReport} (h : Fails arguments env clock world message appends) :
    ¬ Succeeds arguments env clock world scenario report := by
  rintro ⟨hscenario, hreport⟩
  cases h with
  | settings h => simp [h] at hscenario
  | scenario h hrun =>
    obtain rfl := Except.ok.inj (h.symm.trans hscenario)
    simp [hrun] at hreport

/-- The run of a scenario, with its place in the journal, ends as the scenario ends. -/
theorem carryOut_ensures [Engine] [OptionOrder] (scenario : Scenario) (clock : Clock)
    {storage : StorageMode} (htable : IsOneLine scenario.table)
    (hroot : IsOneLine scenario.localRoot) (hbucket : storage.HasOneLineBucket)
    {start world : World} (hsame : start.SameView world)
    (hplain : ∀ event ∈ start.journal, event.IsPlain) :
    (carryOut scenario storage clock).Ensures start
      (fun report after => ((scenario.run storage clock).start world).1 = .ok report ∧
        storage.tableUri scenario.table scenario.localRoot = .ok report.uri ∧
        IsOneLine report.uri ∧
        report.appendVersions = scenario.returnedVersions storage clock world ∧
        report.appendVersions.length = scenario.plan.batches.toNat ∧
        IsAccount report.uri scenario.plan.rowsPerBatch.toNat report.appendVersions after.journal)
      fun failure after => ((scenario.run storage clock).start world).1 = .error failure ∧
        failure.IsOneLine ∧ ∃ uri, IsOneLine uri ∧
          IsAccount uri scenario.plan.rowsPerBatch.toNat
            (scenario.returnedVersions storage clock world) after.journal := by
  set started : World :=
    { start with journal := start.journal ++ [.starting storage scenario.table] }
  have hstarting : (Event.starting storage scenario.table).IsPlain :=
    ⟨Event.isOneLine_line (List.forall_mem_singleton.mpr htable), rfl, rfl⟩
  have hplain' : ∀ event ∈ started.journal, event.IsPlain :=
    List.forall_mem_append.mpr ⟨hplain, List.forall_mem_singleton.mpr hstarting⟩
  have hsame' : started.SameView world := hsame
  have hrun := scenario.run_ensures_account clock htable hroot hbucket hplain'
  have hanswer := scenario.fst_start_run_congr storage clock hsame'
  rw [scenario.returnedVersions_congr storage clock hsame'] at hrun
  refine Run.ensures_bind (Run.ensures_record ?_)
  cases hstart : (scenario.run storage clock).start started with
  | mk answer after =>
    rw [hstart] at hanswer
    cases answer with
    | error failure =>
      exact Run.ensures_bind (Run.ensures_of_start_error hstart
        ⟨hanswer.symm, hrun.of_error hstart⟩)
    | ok report =>
      obtain ⟨huri, hone, hversions, hlength, haccount⟩ := hrun.of_ok hstart
      have hdone : (Event.done report.appendVersions report.rowsDeleted report.checkpointVersion
          report.summary.rows).IsPlain :=
        ⟨Event.isOneLine_line fun text htext => absurd htext List.not_mem_nil, rfl, rfl⟩
      exact Run.ensures_bind (Run.ensures_of_start hstart
        (Run.ensures_bind (Run.ensures_record (Run.ensures_pure
          ⟨hanswer.symm, huri, hone, hversions, hlength, haccount.append_plain hdone⟩))))

/-- A run of the program succeeds, fails or is aborted, and shows which. -/
theorem shown_run_cases [Engine] [OptionOrder] (hargv : Arguments.ofList argv = .ok arguments)
    (hjournal : world.journal = [])
    (hnames : IsOneLine (arguments.configPath env) ∧ IsOneLine (env.textOf "S3_BUCKET") ∧
      ∀ scenario, Scenario.ofArguments arguments env world.tree world.home = .ok scenario →
        IsOneLine scenario.table ∧ IsOneLine scenario.localRoot) :
    (∃ scenario report uri, Succeeds arguments env clock world scenario report ∧
      (StorageMode.ofEnvironment env).tableUri scenario.table scenario.localRoot = .ok uri ∧
      (shown (run argv env clock world)).IsSuccess uri scenario.plan.batches.toNat
        scenario.plan.rowsPerBatch.toNat) ∨
    (∃ message appends, Fails arguments env clock world message appends ∧
      (shown (run argv env clock world)).IsFailure message appends) ∨
    ∃ abort, (run argv env clock world).1 = .aborted abort := by
  obtain ⟨hconfig, hbucket, hscenario⟩ := hnames
  set loading : Event := .loadingConfiguration (arguments.configPath env)
  set start : World := { world with journal := world.journal ++ [loading] }
  have hplain : ∀ event ∈ start.journal, event.IsPlain := by
    intro event hmem
    rw [show start.journal = [loading] by simp [start, hjournal]] at hmem
    obtain rfl := List.mem_singleton.mp hmem
    exact ⟨Event.isOneLine_line (List.forall_mem_singleton.mpr hconfig), rfl, rfl⟩
  cases hsettings : Scenario.ofArguments arguments env world.tree world.home with
  | error fault =>
    have hrun : run argv env clock world = fail fault.message start := by
      simp only [run, hargv, hsettings, start, loading]
    have hmessage := Scenario.isOneLine_message_of_ofArguments hconfig hsettings
    rw [hrun]
    exact .inr (.inl ⟨_, _, .settings hsettings,
      isFailure_fail (.of_plain "" 0 hplain) (by decide +kernel) hmessage⟩)
  | ok scenario =>
    obtain ⟨htable, hroot⟩ := hscenario scenario hsettings
    have hsame : start.SameView world := ⟨rfl, fun _ => rfl⟩
    have hcarried := carryOut_ensures scenario clock htable hroot
      (StorageMode.hasOneLineBucket_ofEnvironment hbucket) hsame hplain
    cases hstart : (carryOut scenario (.ofEnvironment env) clock).start start with
    | mk answer after =>
      have hended := hstart
      simp only [start, loading] at hended
      cases answer with
      | ok report =>
        have hrun : run argv env clock world = (.succeeded (successLine report), after) := by
          simp only [run, hargv, hsettings, hended]
        obtain ⟨hanswer, huri, hone, hversions, hlength, haccount⟩ := hcarried.of_ok hstart
        obtain ⟨first, count, hrange⟩ :=
          scenario.returnedVersions_eq_range' (.ofEnvironment env) clock world
        refine .inl ⟨scenario, report, report.uri, ⟨hsettings, hanswer⟩, huri, ?_⟩
        rw [hrun, ← hlength]
        exact isSuccess_succeeded haccount hone rfl ⟨first, by simp [hversions, hrange]⟩
      | error failure =>
        obtain ⟨hanswer, hfailure, uri, hone, haccount⟩ := hcarried.of_error hstart
        cases failure with
        | abort abort =>
          have hrun : run argv env clock world = (.aborted abort, after) := by
            simp only [run, hargv, hsettings, hended]
          exact .inr (.inr ⟨abort, by rw [hrun]⟩)
        | fault fault =>
          have hrun : run argv env clock world = fail fault.message after := by
            simp only [run, hargv, hsettings, hended]
          rw [hrun]
          exact .inr (.inl ⟨_, _, .scenario hsettings hanswer,
            isFailure_fail haccount hone hfailure⟩)

end Run

/-- A run of the program that is not aborted, with a config path, a table name, a local root and a
bucket without line breaks has exit status 0 exactly if its settings are found and its scenario
succeeds, and then it is shown as a success.  Otherwise its failure is shown. -/
theorem shown_run [Engine] [OptionOrder] {argv : List String} {arguments : Arguments}
    {env : Environment} {clock : Clock} {world : World}
    (hargv : Arguments.ofList argv = .ok arguments) (hjournal : world.journal = [])
    (hnames : IsOneLine (arguments.configPath env) ∧ IsOneLine (env.textOf "S3_BUCKET") ∧
      ∀ scenario, Scenario.ofArguments arguments env world.tree world.home = .ok scenario →
        IsOneLine scenario.table ∧ IsOneLine scenario.localRoot)
    (habort : ∀ abort, (run argv env clock world).1 ≠ .aborted abort) :
    ((shown (run argv env clock world)).exitStatus = 0 ↔
      ∃ scenario report, Succeeds arguments env clock world scenario report) ∧
    (∀ scenario report, Succeeds arguments env clock world scenario report → ∃ uri,
      (StorageMode.ofEnvironment env).tableUri scenario.table scenario.localRoot = .ok uri ∧
        (shown (run argv env clock world)).IsSuccess uri scenario.plan.batches.toNat
          scenario.plan.rowsPerBatch.toNat) ∧
    ((¬ ∃ scenario report, Succeeds arguments env clock world scenario report) →
      ∃ message appends, Fails arguments env clock world message appends ∧
        (shown (run argv env clock world)).IsFailure message appends) := by
  rcases shown_run_cases hargv hjournal hnames with
    ⟨scenario, report, uri, hsucceeds, huri, hshown⟩ | ⟨message, appends, hfails, hshown⟩ |
      ⟨abort, haborted⟩
  · refine ⟨⟨fun _ => ⟨scenario, report, hsucceeds⟩, fun _ => hshown.exitStatus_eq⟩, ?_,
      fun hnone => absurd ⟨scenario, report, hsucceeds⟩ hnone⟩
    intro scenario' report' hsucceeds'
    obtain rfl := hsucceeds.scenario_eq hsucceeds'
    exact ⟨uri, huri, hshown⟩
  · refine ⟨⟨fun hzero => ?_, fun ⟨_, _, h⟩ => (hfails.not_succeeds h).elim⟩,
      fun _ _ h => (hfails.not_succeeds h).elim, fun _ => ⟨message, appends, hfails, hshown⟩⟩
    rw [hshown.exitStatus_eq] at hzero
    cases hzero
  · exact absurd haborted (habort abort)

/-- Without arguments and variables, two batches of three rows are appended. -/
theorem shown_run_standard :
    let env := Environment.ofList []
    let result := run [] env (fun _ => ⟨0⟩) .fresh
    (∀ abort, result.1 ≠ .aborted abort) ∧ (shown result).IsSuccess "./delta_table/" 2 3 := by
  intro env result
  have hzero : (shown result).exitStatus = 0 := by decide +kernel
  have hscenario : Scenario.ofArguments {} env World.fresh.tree World.fresh.home =
      .ok .standard := by decide +kernel
  have habort : ∀ abort, result.1 ≠ .aborted abort := by
    intro abort haborted
    rw [shown, haborted] at hzero
    cases hzero
  have hargv : Arguments.ofList [] = .ok {} := rfl
  obtain ⟨hiff, hsuccess, -⟩ := shown_run hargv rfl
    ⟨by decide, by decide, fun scenario h => by
      obtain rfl := Except.ok.inj (h.symm.trans hscenario)
      exact ⟨by decide, by decide⟩⟩ habort
  obtain ⟨scenario, report, hsucceeds⟩ := hiff.mp hzero
  obtain ⟨uri, huri, hshown⟩ := hsuccess scenario report hsucceeds
  obtain rfl := Except.ok.inj (hsucceeds.1.symm.trans hscenario)
  obtain rfl : "./delta_table/" = uri := Except.ok.inj huri
  exact ⟨habort, hshown⟩

/-- A line break in an address puts what follows it, the options included, into a line of its
own. -/
theorem furtherLines_storageSelected [OptionOrder] {front back : String} (hfront : IsOneLine front)
    (hback : IsOneLine back) (options : Options) :
    (Event.storageSelected (front ++ "\n" ++ back) options).furtherLines =
      [back ++ " options=" ++ Event.braced options] := by
  have hline : (Event.storageSelected (front ++ "\n" ++ back) options).line =
      "INFO lake_writer::scenario: storage selected uri=" ++ front ++ "\n" ++
        (back ++ " options=" ++ Event.braced options) := by
    show "INFO lake_writer::scenario: storage selected uri=" ++ (front ++ "\n" ++ back) ++
      " options=" ++ Event.braced options = _
    simp only [String.append_assoc]
  have hfirst : IsOneLine ("INFO lake_writer::scenario: storage selected uri=" ++ front) :=
    IsOneLine.append (by decide +kernel) hfront
  have hrest : IsOneLine (back ++ " options=" ++ Event.braced options) :=
    hback.field (by decide +kernel) (Event.isOneLine_braced options)
  rw [Event.furtherLines, hline, hfirst.splitOn_append, hrest.splitOn_eq, List.tail_cons]

/-- A line break in the bucket tears the line of the log that names the address.  What follows the
break can have the shape of a line of the log, here one of a failure in front of the last line,
although the config path, the table name and the local root have no line breaks. -/
theorem exists_isErrorLine_of_bucket :
    let env := Environment.ofList [("AWS_ACCESS_KEY_ID", "k"), ("S3_BUCKET",
      "/b\n2026-02-15T20:00:00.000000Z ERROR lake_writer::scenario: storage selected uri=s3:///b")]
    let result := run [] env (fun _ => ⟨0⟩) .fresh
    Arguments.ofList [] = .ok {} ∧ IsOneLine (({} : Arguments).configPath env) ∧
      Scenario.ofArguments {} env World.fresh.tree World.fresh.home = .ok .standard ∧
      IsOneLine Scenario.standard.table ∧ IsOneLine Scenario.standard.localRoot ∧
      (shown result).exitStatus = 1 ∧
      ∀ front last, (shown result).log = front ++ [last] →
        ∃ line ∈ front, isErrorLine line = true := by
  intro env result
  have houtcome : result.1 = .failed "delta (open)" := by decide +kernel
  let back := "2026-02-15T20:00:00.000000Z ERROR lake_writer::scenario: storage selected " ++
    "uri=s3:///b/delta_table/"
  let options := (StorageMode.ofEnvironment env).redactedOptions
  have hjournal : result.2.journal = [.loadingConfiguration "lake-demo.toml",
      .starting (.ofEnvironment env) "delta_table",
      .storageSelected ("s3:///b" ++ "\n" ++ back) options, .failed "delta (open)"] := by
    decide +kernel
  -- the line behind the break reads as a line of the log, in whatever order the options are
  have hback : LogLine.ofText? back =
      some "ERROR lake_writer::scenario: storage selected uri=s3:///b/delta_table/" := by
    decide +kernel
  set forged := "ERROR lake_writer::scenario: storage selected uri=s3:///b/delta_table/" ++
    (" options=" ++ Event.braced options)
  have hforged : (Event.storageSelected ("s3:///b" ++ "\n" ++ back) options).furtherLines.filterMap
      LogLine.ofText? = [forged] := by
    rw [furtherLines_storageSelected (by decide +kernel) (by decide +kernel), String.append_assoc,
      List.filterMap_cons, LogLine.ofText?_append hback, List.filterMap_nil]
  have herror : isErrorLine forged = true :=
    List.isPrefixOf_iff_prefix.mpr (toList_prefix_append (by decide +kernel) _)
  refine ⟨rfl, by decide +kernel, by decide +kernel, by decide +kernel, by decide +kernel,
    by decide +kernel, fun others last hlog => ⟨forged, ?_, herror⟩⟩
  have hresult : (shown result).log = result.1.log result.2.journal := rfl
  rw [hresult, hjournal] at hlog
  exact Outcome.mem_of_log_eq [.loadingConfiguration "lake-demo.toml",
    .starting (.ofEnvironment env) "delta_table"] (hforged ▸ List.mem_singleton_self forged) hlog

end Program

end LogTable
