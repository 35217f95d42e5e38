import LogTable.Proofs.Evolution

/-!
# Tasks in turn

A `Task` is what is done to a table at one go: a step, or a whole scenario.  Several runs are
carried out in turn, whether the ones before succeed or fail (`Run.inTurn`).  What all of them
respect is respected by the whole (`Run.inTurn_respects`).  If the ones that are left out of a list
keep a relation between two worlds, and the others give the same answers in related worlds, then
these give the same answers with and without the ones that are left out (`Run.inTurn_filter`).
-/

namespace LogTable

open Predicate

/-- What is done to a table at one go. -/
inductive Task where
  | step (step : Step)
  /-- A scenario on the table, whatever table it names itself. -/
  | scenario (scenario : Scenario) (clock : Clock)

/-- What a task gives. -/
inductive TaskAnswer where
  | step (answer : Answer)
  | scenario (report : ScenarioReport)
  deriving DecidableEq, Repr

/-- The scenario on the table of another name. -/
def Scenario.onTable (scenario : Scenario) (name root : String) : Scenario :=
  { scenario with table := name, localRoot := root }

/-- Carries out a task on the table of the given name. -/
def Task.run [Engine] (task : Task) (storage : StorageMode) (name root : String) : Run TaskAnswer :=
  match task with
  | .step single => do return .step (← single.run storage name root)
  | .scenario whole clock => do return .scenario (← (whole.onTable name root).run storage clock)

/-- A step on a name with an address is done to the table at the address. -/
theorem Step.run_of_tableUri [Engine] {storage : StorageMode} {name root uri : String} (step : Step)
    (huri : storage.tableUri name root = .ok uri) :
    step.run storage name root = step.runAt storage uri := by
  rw [Step.run, huri]
  rfl

/-- A task respects what the operations on its table respect. -/
theorem Task.respects_run [Engine] {R : World → World → Prop} {storage : StorageMode}
    {name root uri : String} (h : Operations.Respect R storage uri)
    (huri : storage.tableUri name root = .ok uri) (task : Task) :
    (task.run storage name root).Respects R := by
  cases task with
  | step single =>
    refine Run.Respects.bind h.evolution ?_ fun answer => Run.respects_pure h.evolution _
    rw [single.run_of_tableUri huri]
    exact single.respects_runAt h
  | scenario whole clock =>
    exact ((whole.onTable name root).respects_run h clock huri).bind h.evolution fun report =>
      Run.respects_pure h.evolution _

namespace Run

variable {α ι : Type}

/-- Carries out runs one after the other and gives their answers.  The failure of a run does not
keep the next one from being carried out. -/
def inTurn : List (Run α) → World → List (Except Failure α) × World
  | [], world => ([], world)
  | run :: runs, world =>
    let (answer, after) := run.start world
    let (answers, last) := inTurn runs after
    (answer :: answers, last)

theorem inTurn_cons (run : Run α) (runs : List (Run α)) (world : World) :
    inTurn (run :: runs) world = ((run.start world).1 :: (inTurn runs (run.start world).2).1,
      (inTurn runs (run.start world).2).2) := rfl

/-- Runs in turn lead to a later world if each of them does. -/
theorem inTurn_respects {R : World → World → Prop} (hR : IsEvolution R) {runs : List (Run α)}
    (h : ∀ run ∈ runs, run.Respects R) (world : World) : R world (inTurn runs world).2 := by
  induction runs generalizing world with
  | nil => exact hR.refl world
  | cons run runs ih =>
    rw [inTurn_cons]
    exact hR.trans (h run List.mem_cons_self world)
      (ih (fun other hother => h other (List.mem_cons_of_mem run hother)) _)

/-- The answers to those items of a list that pass a test. -/
def answersTo (p : ι → Bool) (items : List ι) (answers : List (Except Failure α)) :
    List (Except Failure α) :=
  ((items.zip answers).filter fun entry => p entry.1).map Prod.snd

theorem answersTo_cons (p : ι → Bool) (item : ι) (items : List ι) (answer : Except Failure α)
    (answers : List (Except Failure α)) :
    answersTo p (item :: items) (answer :: answers) =
      if p item then answer :: answersTo p items answers else answersTo p items answers := by
  unfold answersTo
  rw [List.zip_cons_cons, List.filter_cons]
  split_ifs <;> rfl

/-- The items that pass a test are answered as if the others were not there, if the others keep a
relation between the two worlds, and the items that pass the test are answered alike in related
worlds and keep the relation together. -/
theorem inTurn_filter {R : World → World → Prop} {run : ι → Run α} {p : ι → Bool} {items : List ι}
    (hkept : ∀ item ∈ items, p item = true → ∀ first second, R first second →
      ((run item).start first).1 = ((run item).start second).1 ∧
        R ((run item).start first).2 ((run item).start second).2)
    (hleft : ∀ item ∈ items, p item = false → ∀ first second, R first second →
      R ((run item).start first).2 second)
    {first second : World} (h : R first second) :
    answersTo p items (inTurn (items.map run) first).1 =
        (inTurn ((items.filter p).map run) second).1 ∧
      R (inTurn (items.map run) first).2 (inTurn ((items.filter p).map run) second).2 := by
  induction items generalizing first second with
  | nil => exact ⟨rfl, h⟩
  | cons item items ih =>
    have hrest : ∀ {first second : World}, R first second → _ :=
      fun {first second} h => ih
        (fun other hother => hkept other (List.mem_cons_of_mem item hother))
        (fun other hother => hleft other (List.mem_cons_of_mem item hother)) h
    rw [List.map_cons, inTurn_cons, answersTo_cons]
    cases hp : p item with
    | true =>
      obtain ⟨hanswer, hafter⟩ := hkept item List.mem_cons_self hp first second h
      obtain ⟨hanswers, hlast⟩ := hrest hafter
      rw [List.filter_cons_of_pos hp, List.map_cons, inTurn_cons, if_pos rfl, hanswer, hanswers]
      exact ⟨rfl, hlast⟩
    | false =>
      rw [List.filter_cons_of_neg (by simp [hp]), if_neg (by decide)]
      exact hrest (hleft item List.mem_cons_self hp first second h)

end Run

end LogTable
