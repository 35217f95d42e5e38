import LogTable.Program
import LogTable.Proofs.Config.Reader
import LogTable.Proofs.Config.Shape
import LogTable.Proofs.FileTree.Location

/-!
# Effective settings

What the arguments, the configuration file and the standard scenario amount to together.
`Settings.AreAt` says which settings a run finds at a path, without looking at how they are found:
none where the system finds nothing, and otherwise those that the document in the file gives.  The
numbers in a file that is read have 64 bits, so that the counts of a plan are never cut when they
are merged (`Settings.AreAt.count_lt`).

Main statements: `Scenario.isMergedFrom_of_ofArguments`, what each part of a scenario is, and
`Scenario.ofArguments_outcome`, when there is no scenario and which of the reasons is given.
-/

namespace LogTable

open Predicate

/-- The text of the file at a location, if a file stands there that holds one. -/
def FileTree.text? (tree : FileTree Content) (location : Location) : Option String :=
  (tree.content? location).bind Content.text?

/-- The text is a document of the right shape. -/
def Document.IsConfigurationText (s : String) : Prop :=
  ∃ document, Document.ofText? s = some document ∧ document.IsConfiguration

/-- The words for a file that holds no text name its path first, and then the reason. -/
theorem ConfigFault.message_unreadable (path : String) (isDirectory : Bool) :
    ∃ reason, (unreadable path isDirectory).message =
      "cannot read config " ++ path ++ ": " ++ reason := by
  cases isDirectory with
  | true => exact ⟨PathFault.isADirectory.message, rfl⟩
  | false =>
    have hreason : ": stream did not contain valid UTF-8" =
        ": " ++ "stream did not contain valid UTF-8" := by decide +kernel
    refine ⟨"stream did not contain valid UTF-8", ?_⟩
    rw [String.append_assoc, ← hreason]
    rfl

/-! ### The configuration file -/

namespace Settings

/-- The settings that a run finds at a path: none are made where the system finds nothing, and
otherwise they are what the document in the file gives. -/
inductive AreAt (tree : FileTree Content) (home : Location) (path : String) : Settings → Prop where
  | absent {fault : PathFault} (h : tree.resolve home path = .error fault) :
    AreAt tree home path {}
  | file {location : Location} {text : String} {document : Document} {settings : Settings}
    (hlocation : tree.resolve home path = .ok location)
    (htext : tree.text? location = some text)
    (hdocument : Document.ofText? text = some document)
    (hshape : document.IsConfiguration) (hgiven : settings.IsGivenBy document) :
    AreAt tree home path settings

variable {tree : FileTree Content} {home : Location} {path : String} {settings : Settings}

/-- Where something is found, the settings depend on the text there. -/
theorem ofFile_of_ok {location : Location} (h : tree.resolve home path = .ok location) :
    ofFile tree home path =
      match tree.text? location with
      | none => .error (.unreadable path (tree.isDirectory location))
      | some text =>
        match Document.ofText? text with
        | none => .error (.malformed path)
        | some document => (ofDocument document).mapError fun _ => .malformed path := by
  obtain ⟨entry, hentry⟩ := Option.isSome_iff_exists.mp (FileTree.isSome_find?_of_resolve h)
  unfold ofFile FileTree.text? FileTree.content? FileTree.isDirectory
  simp only [h, hentry]
  cases entry with
  | directory => rfl
  | file content =>
    cases htext : content.text? with
    | none =>
      simp only [Option.bind_some, Entry.content?, htext, Option.any_some, Entry.isDirectory]
    | some text =>
      cases hdocument : Document.ofText? text with
      | none => simp only [Option.bind_some, Entry.content?, htext, hdocument]
      | some document => simp only [Option.bind_some, Entry.content?, htext, hdocument]

/-- A text that is no document of the right shape is refused. -/
theorem ofFile_of_not_isConfigurationText {location : Location} {text : String}
    (h : tree.resolve home path = .ok location) (htext : tree.text? location = some text)
    (hshape : ¬ Document.IsConfigurationText text) :
    ofFile tree home path = .error (.malformed path) := by
  simp only [ofFile_of_ok h, htext]
  cases hdocument : Document.ofText? text with
  | none => rfl
  | some document =>
    cases hsettings : ofDocument document with
    | error _ => simp only [hsettings, Except.mapError]
    | ok settings =>
      obtain ⟨hknown, hgiven⟩ := ofDocument_eq_ok_iff.mp hsettings
      exact absurd ⟨document, hdocument,
        hgiven.isConfiguration (Document.nodup_of_ofText? hdocument) hknown⟩ hshape

/-- A run has the settings that it finds. -/
theorem AreAt.ofFile_eq (h : settings.AreAt tree home path) :
    ofFile tree home path = .ok settings := by
  cases h with
  | absent h =>
    unfold ofFile
    rw [h]
  | file hlocation htext hdocument hshape hgiven =>
    simp only [ofFile_of_ok hlocation, htext, hdocument, ofDocument_eq_ok hgiven hshape,
      Except.mapError]

/-- An empty file makes no settings. -/
theorem areAt_of_text?_eq_empty {location : Location} (h : tree.resolve home path = .ok location)
    (htext : tree.text? location = some "") : ({} : Settings).AreAt tree home path := by
  have hdocument : Document.ofText? "" = some [] := rfl
  have hgiven : ({} : Settings).IsGivenBy [] :=
    { table := rfl, localRoot := rfl, batches := rfl, rows := rfl, message := rfl, delete := rfl
      deletePredicate := rfl, checkpoint := rfl, partitionBy := ⟨none, rfl, rfl⟩, reset := rfl }
  exact .file h htext hdocument (fun _ hentry => absurd hentry List.not_mem_nil) hgiven

/-- A run finds the settings that it has. -/
theorem areAt_of_ofFile (h : ofFile tree home path = .ok settings) :
    settings.AreAt tree home path := by
  cases hlocation : tree.resolve home path with
  | error fault =>
    unfold ofFile at h
    rw [hlocation] at h
    cases h
    exact .absent hlocation
  | ok location =>
    have hfile := ofFile_of_ok hlocation
    cases htext : tree.text? location with
    | none =>
      simp only [htext] at hfile
      cases h.symm.trans hfile
    | some text =>
      by_cases hshape : Document.IsConfigurationText text
      · obtain ⟨document, hdocument, hshape⟩ := hshape
        obtain ⟨found, hgiven⟩ :=
          Document.exists_isGivenBy (Document.nodup_of_ofText? hdocument) hshape
        have hfound : found.AreAt tree home path :=
          .file hlocation htext hdocument hshape hgiven
        obtain rfl := Except.ok.inj (h.symm.trans hfound.ofFile_eq)
        exact hfound
      · cases h.symm.trans (ofFile_of_not_isConfigurationText hlocation htext hshape)

/-- The numbers that a run finds have 64 bits. -/
theorem AreAt.count_lt (h : settings.AreAt tree home path) {n : Nat}
    (hn : settings.batches = some n ∨ settings.rows = some n) : n < 2 ^ 64 := by
  cases h with
  | absent => simp at hn
  | @file _ _ document _ _ _ hdocument _ hgiven =>
    obtain ⟨key, hlookup⟩ : ∃ key, document.lookup key = some (.integer n) := by
      rcases hn with hn | hn
      · exact ⟨_, by rw [hgiven.batches, hn]; rfl⟩
      · exact ⟨_, by rw [hgiven.rows, hn]; rfl⟩
    have hlt := Document.lt_of_ofText? hdocument hlookup
    omega

end Settings

/-! ### Merging -/

/-- The counts of a plan are the given ones, unless one of them is zero. -/
theorem BatchPlan.ofCounts_cases (batches rows : UInt64) :
    (batches.toNat = 0 ∧ ofCounts batches rows = .error .noBatches) ∨
    (batches.toNat ≠ 0 ∧ rows.toNat = 0 ∧ ofCounts batches rows = .error .noRows) ∨
    (batches.toNat ≠ 0 ∧ rows.toNat ≠ 0 ∧ ∃ plan, ofCounts batches rows = .ok plan ∧
      plan.batches = batches ∧ plan.rowsPerBatch = rows) := by
  have hzero : ∀ count : UInt64, count.toNat = 0 ↔ count = 0 := fun count => by
    rw [← UInt64.toNat_inj, UInt64.toNat_zero]
  unfold ofCounts
  simp only [ne_eq, hzero]
  split_ifs with hbatches hrows
  · exact .inl ⟨hbatches, rfl⟩
  · exact .inr (.inl ⟨hbatches, hrows, rfl⟩)
  · exact .inr (.inr ⟨hbatches, hrows, _, rfl, rfl, rfl⟩)

namespace Scenario

/-- The number of batches: from the arguments if given there, and else from the file. -/
def batchesFrom (arguments : Arguments) (settings : Settings) : Nat :=
  (arguments.batches.map UInt64.toNat).getD (settings.batches.getD 2)

/-- The number of rows in a batch: from the arguments if given there, and else from the file. -/
def rowsFrom (arguments : Arguments) (settings : Settings) : Nat :=
  (arguments.rows.map UInt64.toNat).getD (settings.rows.getD 3)

/-- Rows are to be deleted, since neither the arguments nor the file say otherwise. -/
def Deletes (arguments : Arguments) (settings : Settings) : Prop :=
  arguments.noDelete = false ∧ settings.delete ≠ some false

/-- The predicate of the rows to delete: from the arguments if given there, and else from the
file. -/
def predicateFrom (arguments : Arguments) (settings : Settings) : String :=
  arguments.deletePredicate.getD (settings.deletePredicate.getD "id = 1")

/-- Rows are to be deleted, but the predicate holds nothing except blanks. -/
def HasBlankPredicate (arguments : Arguments) (settings : Settings) : Prop :=
  Deletes arguments settings ∧ ∀ c ∈ (predicateFrom arguments settings).toList, Text.isBlank c

/-- Each part of the scenario comes from its own option, else from its own key, and else from the
standard scenario.  A step is off exactly if its flag or its key says so. -/
structure IsMergedFrom (scenario : Scenario) (arguments : Arguments) (settings : Settings) :
    Prop where
  table_eq : scenario.table = arguments.table.getD (settings.table.getD "delta_table")
  localRoot_eq : scenario.localRoot = arguments.localRoot.getD (settings.localRoot.getD ".")
  batches_eq : scenario.plan.batches.toNat = batchesFrom arguments settings
  rows_eq : scenario.plan.rowsPerBatch.toNat = rowsFrom arguments settings
  message_eq : scenario.message = arguments.message.getD (settings.message.getD "Hello, World!")
  deletePredicate_eq_none_iff : scenario.deletePredicate = none ↔
    arguments.noDelete = true ∨ settings.delete = some false
  deletePredicate_eq : ∀ predicate, scenario.deletePredicate = some predicate →
    predicate = predicateFrom arguments settings
  checkpoint_eq_false_iff : scenario.checkpoint = false ↔
    arguments.noCheckpoint = true ∨ settings.checkpoint = some false
  partitionBy_eq : scenario.partitionBy =
    if arguments.partitionBy ≠ [] then arguments.partitionBy else settings.partitionBy
  reset_eq_false_iff : scenario.reset = false ↔
    arguments.keepExisting = true ∨ settings.reset = some false
  one_le_batches : 1 ≤ scenario.plan.batches.toNat
  one_le_rows : 1 ≤ scenario.plan.rowsPerBatch.toNat
  exists_not_isBlank : ∀ predicate, scenario.deletePredicate = some predicate →
    ∃ c ∈ predicate.toList, Text.isBlank c = false

/-- Each part of two scenarios is the same if the options and keys that are named for it are. -/
structure FollowSources (first second : Scenario) (arguments arguments' : Arguments)
    (settings settings' : Settings) : Prop where
  table_eq : arguments.table = arguments'.table → settings.table = settings'.table →
    first.table = second.table
  localRoot_eq : arguments.localRoot = arguments'.localRoot →
    settings.localRoot = settings'.localRoot → first.localRoot = second.localRoot
  batches_eq : arguments.batches = arguments'.batches → settings.batches = settings'.batches →
    first.plan.batches = second.plan.batches
  rows_eq : arguments.rows = arguments'.rows → settings.rows = settings'.rows →
    first.plan.rowsPerBatch = second.plan.rowsPerBatch
  message_eq : arguments.message = arguments'.message → settings.message = settings'.message →
    first.message = second.message
  deletePredicate_eq : arguments.noDelete = arguments'.noDelete →
    settings.delete = settings'.delete → arguments.deletePredicate = arguments'.deletePredicate →
    settings.deletePredicate = settings'.deletePredicate →
    first.deletePredicate = second.deletePredicate
  checkpoint_eq : arguments.noCheckpoint = arguments'.noCheckpoint →
    settings.checkpoint = settings'.checkpoint → first.checkpoint = second.checkpoint
  partitionBy_eq : arguments.partitionBy = arguments'.partitionBy →
    settings.partitionBy = settings'.partitionBy → first.partitionBy = second.partitionBy
  reset_eq : arguments.keepExisting = arguments'.keepExisting →
    settings.reset = settings'.reset → first.reset = second.reset

/-- What the merging comes to, with the first of its faults if there is one. -/
structure IsDecided (arguments : Arguments) (settings : Settings)
    (outcome : Except ConfigFault Scenario) : Prop where
  of_noBatches : batchesFrom arguments settings = 0 → outcome = .error (.settings .noBatches)
  of_noRows : batchesFrom arguments settings ≠ 0 → rowsFrom arguments settings = 0 →
    outcome = .error (.settings .noRows)
  of_blankPredicate : batchesFrom arguments settings ≠ 0 → rowsFrom arguments settings ≠ 0 →
    HasBlankPredicate arguments settings → outcome = .error .blankPredicate
  exists_scenario : batchesFrom arguments settings ≠ 0 → rowsFrom arguments settings ≠ 0 →
    ¬ HasBlankPredicate arguments settings → ∃ scenario, outcome = .ok scenario

variable {arguments : Arguments} {settings : Settings}

/-- The first of three values that is there. -/
theorem getD_orElse {α : Type} (argument given : Option α) (standard : α) :
    (argument <|> given).getD standard = argument.getD (given.getD standard) := by
  cases argument <;> rfl

/-- A count that fits into 64 bits is not cut when it is merged. -/
theorem toNat_merge (argument : Option UInt64) {given : Option Nat} (standard : UInt64)
    (hgiven : ∀ n, given = some n → n < 2 ^ 64) :
    ((argument <|> given.map UInt64.ofNat).getD standard).toNat =
      (argument.map UInt64.toNat).getD (given.getD standard.toNat) := by
  cases argument with
  | some n => rfl
  | none =>
    cases given with
    | none => rfl
    | some n => exact UInt64.toNat_ofNat_of_lt (hgiven n rfl)

/-- The predicate of a run is the one that comes first, if rows are to be deleted. -/
theorem chosenPredicate_eq (h : Deletes arguments settings) :
    chosenPredicate arguments settings = some (predicateFrom arguments settings) := by
  obtain ⟨hflag, hkey⟩ := h
  have hon : settings.delete.getD true = true := by
    rcases hdelete : settings.delete with _ | _ | _ <;> simp_all
  unfold chosenPredicate predicateFrom
  rw [hflag, hon]
  cases arguments.deletePredicate <;> cases settings.deletePredicate <;> rfl

theorem chosenPredicate_eq_none (h : ¬ Deletes arguments settings) :
    chosenPredicate arguments settings = none := by
  have hoff : (!arguments.noDelete && settings.delete.getD true) = false := by
    rcases hdelete : settings.delete with _ | _ | _ <;>
      cases hflag : arguments.noDelete <;> simp_all [Deletes]
  unfold chosenPredicate
  rw [hoff]
  rfl

theorem chosenPredicate_eq_none_iff : chosenPredicate arguments settings = none ↔
    arguments.noDelete = true ∨ settings.delete = some false := by
  by_cases h : Deletes arguments settings
  · rw [chosenPredicate_eq h]
    simp [h.1, h.2]
  · rw [chosenPredicate_eq_none h, eq_self_iff_true, true_iff]
    rw [Deletes, not_and_or, Bool.not_eq_false, not_not] at h
    exact h

/-- A predicate of a run is the one that comes first. -/
theorem eq_predicateFrom {predicate : String}
    (h : chosenPredicate arguments settings = some predicate) :
    predicate = predicateFrom arguments settings := by
  by_cases hdeletes : Deletes arguments settings
  · exact Option.some.inj (h.symm.trans (chosenPredicate_eq hdeletes))
  · cases h.symm.trans (chosenPredicate_eq_none hdeletes)

/-- The predicate of a run is blank exactly if rows are to be deleted with a blank predicate. -/
theorem any_chosenPredicate_iff : (chosenPredicate arguments settings).any Text.isBlankText = true ↔
    HasBlankPredicate arguments settings := by
  unfold HasBlankPredicate
  by_cases h : Deletes arguments settings
  · rw [chosenPredicate_eq h, Option.any_some, Text.isBlankText, List.all_eq_true]
    exact (and_iff_right h).symm
  · rw [chosenPredicate_eq_none h]
    simp [h]

/-- A predicate of a run holds something, unless the run has a blank predicate. -/
theorem exists_not_isBlank {predicate : String}
    (h : chosenPredicate arguments settings = some predicate)
    (hblank : ¬ HasBlankPredicate arguments settings) :
    ∃ c ∈ predicate.toList, Text.isBlank c = false := by
  by_contra hall
  refine hblank (any_chosenPredicate_iff.mp ?_)
  rw [h, Option.any_some, Text.isBlankText, List.all_eq_true]
  exact fun c hc => Bool.of_not_eq_false fun hfalse => hall ⟨c, hc, hfalse⟩

/-- A step is off exactly if its flag is given or its key says so. -/
theorem switch_eq_false_iff {flag : Bool} {given : Option Bool} :
    (!flag && given.getD true) = false ↔ flag = true ∨ given = some false := by
  rcases given with _ | _ | _ <;> cases flag <;> simp

/-- Arguments and settings have the first of the faults that are there, or make a scenario. -/
theorem ofSources_cases (arguments : Arguments)
    (hcounts : ∀ n, settings.batches = some n ∨ settings.rows = some n → n < 2 ^ 64) :
    (batchesFrom arguments settings = 0 ∧
      ofSources arguments settings = .error (.settings .noBatches)) ∨
    (batchesFrom arguments settings ≠ 0 ∧ rowsFrom arguments settings = 0 ∧
      ofSources arguments settings = .error (.settings .noRows)) ∨
    (batchesFrom arguments settings ≠ 0 ∧ rowsFrom arguments settings ≠ 0 ∧
      HasBlankPredicate arguments settings ∧
      ofSources arguments settings = .error .blankPredicate) ∨
    (batchesFrom arguments settings ≠ 0 ∧ rowsFrom arguments settings ≠ 0 ∧
      ¬ HasBlankPredicate arguments settings ∧
      ∃ scenario, ofSources arguments settings = .ok scenario ∧
        scenario.IsMergedFrom arguments settings) := by
  have hbatches := toNat_merge arguments.batches standard.plan.batches
    fun n hn => hcounts n (.inl hn)
  have hrows := toNat_merge arguments.rows standard.plan.rowsPerBatch
    fun n hn => hcounts n (.inr hn)
  change _ = batchesFrom arguments settings at hbatches
  change _ = rowsFrom arguments settings at hrows
  unfold ofSources
  dsimp only
  generalize (arguments.batches <|> settings.batches.map UInt64.ofNat).getD
    standard.plan.batches = batches at hbatches ⊢
  generalize (arguments.rows <|> settings.rows.map UInt64.ofNat).getD
    standard.plan.rowsPerBatch = rows at hrows ⊢
  rw [← hbatches, ← hrows]
  rcases BatchPlan.ofCounts_cases batches rows with
    ⟨hnone, hplan⟩ | ⟨hsome, hnone, hplan⟩ | ⟨hsome, hsome', plan, hplan, rfl, rfl⟩
  · rw [hplan]
    exact .inl ⟨hnone, rfl⟩
  · rw [hplan]
    exact .inr (.inl ⟨hsome, hnone, rfl⟩)
  · rw [hplan]
    simp only [Except.mapError, bind, Except.bind]
    by_cases hblank : HasBlankPredicate arguments settings
    · refine .inr (.inr (.inl ⟨hsome, hsome', hblank, ?_⟩))
      rw [if_pos (any_chosenPredicate_iff.mpr hblank)]
      rfl
    · refine .inr (.inr (.inr ⟨hsome, hsome', hblank, ?_⟩))
      rw [if_neg (mt any_chosenPredicate_iff.mp hblank)]
      exact ⟨_, rfl, {
        table_eq := getD_orElse _ _ _
        localRoot_eq := getD_orElse _ _ _
        batches_eq := hbatches
        rows_eq := hrows
        message_eq := getD_orElse _ _ _
        deletePredicate_eq_none_iff := chosenPredicate_eq_none_iff
        deletePredicate_eq := fun predicate h => eq_predicateFrom h
        checkpoint_eq_false_iff := switch_eq_false_iff
        partitionBy_eq := by
          rw [ite_not]
        reset_eq_false_iff := switch_eq_false_iff
        one_le_batches := Nat.one_le_iff_ne_zero.mpr hsome
        one_le_rows := Nat.one_le_iff_ne_zero.mpr hsome'
        exists_not_isBlank := fun predicate h => exists_not_isBlank h hblank }⟩

/-- What is merged depends on nothing but the sources that are named for it. -/
theorem IsMergedFrom.followSources {first second : Scenario} {arguments' : Arguments}
    {settings' : Settings} (hfirst : first.IsMergedFrom arguments settings)
    (hsecond : second.IsMergedFrom arguments' settings') :
    FollowSources first second arguments arguments' settings settings' where
  table_eq hoption hkey := by
    rw [hfirst.table_eq, hsecond.table_eq, hoption, hkey]
  localRoot_eq hoption hkey := by
    rw [hfirst.localRoot_eq, hsecond.localRoot_eq, hoption, hkey]
  batches_eq hoption hkey := by
    rw [← UInt64.toNat_inj, hfirst.batches_eq, hsecond.batches_eq, batchesFrom, hoption, hkey,
      batchesFrom]
  rows_eq hoption hkey := by
    rw [← UInt64.toNat_inj, hfirst.rows_eq, hsecond.rows_eq, rowsFrom, hoption, hkey, rowsFrom]
  message_eq hoption hkey := by
    rw [hfirst.message_eq, hsecond.message_eq, hoption, hkey]
  deletePredicate_eq hflag hswitch hoption hkey := by
    have hnone : first.deletePredicate = none ↔ second.deletePredicate = none := by
      rw [hfirst.deletePredicate_eq_none_iff, hsecond.deletePredicate_eq_none_iff, hflag, hswitch]
    have hsame : predicateFrom arguments settings = predicateFrom arguments' settings' := by
      rw [predicateFrom, hoption, hkey, predicateFrom]
    cases hpredicate : first.deletePredicate with
    | none => exact (hnone.mp hpredicate).symm
    | some predicate =>
      cases hother : second.deletePredicate with
      | none => cases hpredicate.symm.trans (hnone.mpr hother)
      | some other =>
        rw [hfirst.deletePredicate_eq _ hpredicate, hsecond.deletePredicate_eq _ hother, hsame]
  checkpoint_eq hflag hkey := by
    refine Bool.eq_iff_iff.mpr (not_iff_not.mp ?_)
    rw [Bool.not_eq_true, Bool.not_eq_true, hfirst.checkpoint_eq_false_iff,
      hsecond.checkpoint_eq_false_iff, hflag, hkey]
  partitionBy_eq hoption hkey := by
    rw [hfirst.partitionBy_eq, hsecond.partitionBy_eq, hoption, hkey]
  reset_eq hflag hkey := by
    refine Bool.eq_iff_iff.mpr (not_iff_not.mp ?_)
    rw [Bool.not_eq_true, Bool.not_eq_true, hfirst.reset_eq_false_iff,
      hsecond.reset_eq_false_iff, hflag, hkey]

/-- What arguments and settings come to is decided by the first fault that is there. -/
theorem isDecided_ofSources
    (hcounts : ∀ n, settings.batches = some n ∨ settings.rows = some n → n < 2 ^ 64) :
    IsDecided arguments settings (ofSources arguments settings) := by
  rcases ofSources_cases arguments hcounts with
    ⟨hb, h⟩ | ⟨hb, hr, h⟩ | ⟨hb, hr, hblank, h⟩ | ⟨hb, hr, hblank, scenario, h, -⟩
  · exact ⟨fun _ => h, fun hne => absurd hb hne, fun hne => absurd hb hne,
      fun hne => absurd hb hne⟩
  · exact ⟨fun hzero => absurd hzero hb, fun _ _ => h, fun _ hne => absurd hr hne,
      fun _ hne => absurd hr hne⟩
  · exact ⟨fun hzero => absurd hzero hb, fun _ hzero => absurd hzero hr, fun _ _ _ => h,
      fun _ _ hnot => absurd hblank hnot⟩
  · exact ⟨fun hzero => absurd hzero hb, fun _ hzero => absurd hzero hr,
      fun _ _ hnot => absurd hnot hblank, fun _ _ _ => ⟨scenario, h⟩⟩

section Program

variable {env : Environment} {tree : FileTree Content} {home : Location}

/-- The scenario of a run is made of the settings that the run finds. -/
theorem ofArguments_eq (h : settings.AreAt tree home (arguments.configPath env)) :
    ofArguments arguments env tree home = ofSources arguments settings := by
  unfold ofArguments
  rw [h.ofFile_eq]
  rfl

/-- A run without settings has no scenario. -/
theorem ofArguments_eq_error {fault : ConfigFault}
    (h : Settings.ofFile tree home (arguments.configPath env) = .error fault) :
    ofArguments arguments env tree home = .error fault := by
  unfold ofArguments
  rw [h]
  rfl

/-- A scenario that is found is merged from the settings that the run finds. -/
theorem isMergedFrom_of_areAt {scenario : Scenario}
    (hsettings : settings.AreAt tree home (arguments.configPath env))
    (h : ofArguments arguments env tree home = .ok scenario) :
    scenario.IsMergedFrom arguments settings := by
  rw [ofArguments_eq hsettings] at h
  rcases ofSources_cases arguments fun n hn => hsettings.count_lt hn with
    ⟨-, hfault⟩ | ⟨-, -, hfault⟩ | ⟨-, -, -, hfault⟩ | ⟨-, -, -, other, hother, hmerged⟩
  · cases h.symm.trans hfault
  · cases h.symm.trans hfault
  · cases h.symm.trans hfault
  · rwa [Except.ok.inj (h.symm.trans hother)]

/-- A scenario that is found is merged from the settings at the path of the configuration: the path
given by the arguments, else by the environment, else the standard one.  Each part of it depends on
nothing but the options and keys that are named for it. -/
theorem isMergedFrom_of_ofArguments {scenario : Scenario}
    (h : ofArguments arguments env tree home = .ok scenario) :
    arguments.configPath env =
      arguments.config.getD ((env "LAKE_DEMO_CONFIG").getD "lake-demo.toml") ∧
    ∃ settings : Settings, settings.AreAt tree home (arguments.configPath env) ∧
      scenario.IsMergedFrom arguments settings ∧
      ∀ (arguments' : Arguments) (env' : Environment) (tree' : FileTree Content)
        (home' : Location) (scenario' : Scenario) (settings' : Settings),
        ofArguments arguments' env' tree' home' = .ok scenario' →
        settings'.AreAt tree' home' (arguments'.configPath env') →
        FollowSources scenario scenario' arguments arguments' settings settings' := by
  refine ⟨getD_orElse _ _ _, ?_⟩
  cases hfile : Settings.ofFile tree home (arguments.configPath env) with
  | error fault => cases h.symm.trans (ofArguments_eq_error hfile)
  | ok settings =>
    have hsettings := Settings.areAt_of_ofFile hfile
    exact ⟨settings, hsettings, isMergedFrom_of_areAt hsettings h,
      fun _ _ _ _ _ _ hother hsettings' => (isMergedFrom_of_areAt hsettings h).followSources
        (isMergedFrom_of_areAt hsettings' hother)⟩

/-- The arguments come before the file, and the file before the standard scenario. -/
theorem isMergedFrom_of_both_sources :
    let text := "table = \"from_file\"\nrows = 10\ndelete_predicate = \"id > 5\"\n" ++
      "partition_by = [\"user\"]\ncheckpoint = false\n"
    let tree := World.fresh.tree.put ["work", "lake-demo.toml"] (.file (.bytes text.toUTF8))
    let arguments : Arguments := { table := some "from_cli", batches := some 3 }
    let settings : Settings := {
      table := some "from_file", rows := some 10, deletePredicate := some "id > 5"
      checkpoint := some false, partitionBy := ["user"] }
    let scenario : Scenario := {
      table := "from_cli", localRoot := ".", plan := ⟨3, 10, by decide, by decide⟩
      message := "Hello, World!", deletePredicate := some "id > 5", checkpoint := false
      partitionBy := ["user"], reset := true }
    ofArguments arguments (fun _ => none) tree ["work"] = .ok scenario ∧
      settings.AreAt tree ["work"] "lake-demo.toml" ∧ scenario.IsMergedFrom arguments settings := by
  intro text tree arguments settings scenario
  have hfile : Settings.ofFile tree ["work"] "lake-demo.toml" = .ok settings := by decide +kernel
  have hsources : ofSources arguments settings = .ok scenario := by decide +kernel
  have hscenario : ofArguments arguments (fun _ => none) tree ["work"] = .ok scenario :=
    (ofArguments_eq (Settings.areAt_of_ofFile hfile)).trans hsources
  obtain ⟨-, found, hfound, hmerged, -⟩ := isMergedFrom_of_ofArguments hscenario
  obtain rfl : found = settings := Except.ok.inj (hfound.ofFile_eq.symm.trans hfile)
  exact ⟨hscenario, hfound, hmerged⟩

/-- What a run comes to is decided by the settings that it finds. -/
theorem isDecided_ofArguments (h : settings.AreAt tree home (arguments.configPath env)) :
    IsDecided arguments settings (ofArguments arguments env tree home) := by
  rw [ofArguments_eq h]
  exact isDecided_ofSources fun n hn => h.count_lt hn

/-- A run without a scenario fails with the words of the fault and changes no files. -/
theorem run_of_ofArguments_eq_error [Engine] {argv : List String} {fault : ConfigFault}
    (hargv : Arguments.ofList argv = .ok arguments) (clock : Clock) (journal : List Event)
    (h : ofArguments arguments env tree home = .error fault) :
    (Program.run argv env clock ⟨tree, home, journal⟩).1 = .failed fault.message ∧
      (Program.run argv env clock ⟨tree, home, journal⟩).2.tree = tree := by
  unfold Program.run
  rw [hargv]
  dsimp only
  rw [h]
  exact ⟨rfl, rfl⟩

/-- A run with a scenario carries it out on the files that it has been started on. -/
theorem run_of_ofArguments_eq_ok [Engine] {argv : List String} {scenario : Scenario}
    (hargv : Arguments.ofList argv = .ok arguments) (clock : Clock) (journal : List Event)
    (h : ofArguments arguments env tree home = .ok scenario) :
    (Program.run argv env clock ⟨tree, home, journal⟩).2.tree =
      ((Program.carryOut scenario (.ofEnvironment env) clock).start ⟨tree, home,
        journal ++ [Event.loadingConfiguration (arguments.configPath env)]⟩).2.tree := by
  unfold Program.run
  rw [hargv]
  dsimp only
  rw [h]
  dsimp only
  split <;> simp_all [Program.fail]

/-- A run has no scenario exactly if one of five causes is there, and the first of them is given:
the file at the path of the configuration holds no text; its text is no document of the right shape;
there are no batches; there are no rows; or rows are to be deleted with a blank predicate.  A path
at which nothing is found counts as an empty file.  The files stay as they are, and what a run does
to them is all done by its scenario. -/
theorem ofArguments_outcome [Engine] (arguments : Arguments) (env : Environment)
    (tree : FileTree Content) (home : Location) :
    let path := arguments.configPath env
    let outcome := ofArguments arguments env tree home
    (∀ location, tree.resolve home path = .ok location →
      (tree.text? location = none →
        outcome = .error (.unreadable path (tree.isDirectory location))) ∧
      (∀ text, tree.text? location = some text → ¬ Document.IsConfigurationText text →
        outcome = .error (.malformed path)) ∧
      (∀ text, tree.text? location = some text → Document.IsConfigurationText text →
        ∃ settings : Settings, settings.AreAt tree home path ∧
          IsDecided arguments settings outcome)) ∧
    (∀ fault, tree.resolve home path = .error fault →
      IsDecided arguments {} outcome ∧
      ∀ (other : FileTree Content) (home' location : Location) (path' : String),
        other.resolve home' path' = .ok location → other.text? location = some "" →
        outcome = ofArguments { arguments with config := some path' } env other home') ∧
    (∀ (argv : List String) (clock : Clock) (journal : List Event),
      Arguments.ofList argv = .ok arguments →
      let run := Program.run argv env clock ⟨tree, home, journal⟩
      (∀ fault, outcome = .error fault →
        run.1 = .failed fault.message ∧ run.2.tree = tree) ∧
      ∀ scenario, outcome = .ok scenario → run.2.tree =
        ((Program.carryOut scenario (.ofEnvironment env) clock).start
          ⟨tree, home, journal ++ [Event.loadingConfiguration path]⟩).2.tree) ∧
    (∀ isDirectory, ∃ reason, (ConfigFault.unreadable path isDirectory).message =
      "cannot read config " ++ path ++ ": " ++ reason) ∧
    (∃ shown, (ConfigFault.malformed path).message = "bad config " ++ shown) ∧
    (ConfigFault.settings .noBatches).message = "config error: at least one batch is required" ∧
    (ConfigFault.settings .noRows).message = "config error: rows per batch must be positive" ∧
    ConfigFault.blankPredicate.message = "delete predicate is empty" := by
  dsimp only
  refine ⟨fun location hlocation => ⟨fun htext => ?_, fun text htext hshape => ?_, ?_⟩,
    fun fault hfault => ⟨?_, ?_⟩, fun argv clock journal hargv => ⟨?_, ?_⟩,
    ConfigFault.message_unreadable _, ⟨_, rfl⟩, by decide +kernel, by decide +kernel, rfl⟩
  · refine ofArguments_eq_error ?_
    simp only [Settings.ofFile_of_ok hlocation, htext]
  · exact ofArguments_eq_error
      (Settings.ofFile_of_not_isConfigurationText hlocation htext hshape)
  · rintro text htext ⟨document, hdocument, hshape⟩
    obtain ⟨settings, hgiven⟩ :=
      Document.exists_isGivenBy (Document.nodup_of_ofText? hdocument) hshape
    have hsettings : settings.AreAt tree home (arguments.configPath env) :=
      .file hlocation htext hdocument hshape hgiven
    exact ⟨settings, hsettings, isDecided_ofArguments hsettings⟩
  · exact isDecided_ofArguments (.absent hfault)
  · intro other home' location path' hlocation htext
    have hempty : ({} : Settings).AreAt other home' path' :=
      Settings.areAt_of_text?_eq_empty hlocation htext
    have hother : ofArguments { arguments with config := some path' } env other home' =
        ofSources arguments {} := ofArguments_eq hempty
    exact (ofArguments_eq (.absent hfault)).trans hother.symm
  · exact fun fault h => run_of_ofArguments_eq_error hargv clock journal h
  · exact fun scenario h => run_of_ofArguments_eq_ok hargv clock journal h

end Program

end Scenario

end LogTable
