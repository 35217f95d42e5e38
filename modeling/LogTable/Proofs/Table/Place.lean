import LogTable.Proofs.Table.Growth

/-!
# Opening the place of a table

How the place of a table is opened, step by step.  Where readers get to, writers find the place as
it is (`start_placeForWriting_of_isReady`), and a reader either changes nothing or does what a
writer does (`start_placeForReading_cases`).
-/

namespace LogTable.Table

open FileTree

variable {table : Table} {world : World}

/-- Opening a store makes the directories of the twin, if it is another place. -/
theorem start_openStore (place : Location) (world : World) :
    (openStore place).start world =
      if twin place = place then (.ok (), world)
      else ((world.tree.makeDirectories [] (twin place)).1.map (fun _ => ())
          |>.mapError fun _ => .table .opening,
        { world with tree := (world.tree.makeDirectories [] (twin place)).2 }) := by
  unfold openStore
  split_ifs
  · rfl
  · simp only [Run.start_bind, Run.start_tree, Run.start_ofOutcome, Run.start_pure]
    cases (world.tree.makeDirectories [] (twin place)).1 <;> rfl

theorem start_placeForWriting (haddress : Address.ofUri table.uri = .directory table.uri)
    {place : Location}
    (hplace : (world.tree.createDirectories world.home table.uri).1 = .ok place) :
    table.placeForWriting.start world = (do
      openStore place
      return place : Run Location).start
      { world with tree := (world.tree.createDirectories world.home table.uri).2 } := by
  unfold placeForWriting
  rw [haddress]
  simp only [Run.start_bind, Run.start_tree, Run.start_home, Run.start_ofOutcome, hplace,
    Except.mapError]

theorem createDirectories_of_start_placeForWriting {place : Location}
    (hok : (table.placeForWriting.start world).1 = .ok place) :
    Address.ofUri table.uri = .directory table.uri ∧
      (world.tree.createDirectories world.home table.uri).1 = .ok place := by
  unfold placeForWriting at hok
  cases haddress : Address.ofUri table.uri with
  | store => simp [haddress] at hok
  | unknown => simp [haddress] at hok
  | directory path =>
    obtain rfl := eq_of_ofUri_eq_directory haddress
    rw [haddress] at hok
    simp only [Run.start_bind, Run.start_tree, Run.start_home, Run.start_ofOutcome] at hok
    cases hmade : (world.tree.createDirectories world.home table.uri).1 with
    | error fault => simp [hmade, Except.mapError] at hok
    | ok location =>
      simp only [hmade, Except.mapError] at hok
      refine ⟨rfl, ?_⟩
      split at hok
      · simpa using hok
      · cases hok

/-- Where readers get to, writers find the place as it is. -/
theorem start_placeForWriting_of_isReady (h : table.IsReady world) :
    table.placeForWriting.start world = (.ok (locate world.home table.uri), world) := by
  have hmade : world.tree.createDirectories world.home table.uri =
      (.ok (locate world.home table.uri), world.tree) := by
    rw [createDirectories, h.found]
    simp only [isDirectory_eq_true.mpr h.isDirectory, if_true]
  have hopen : (openStore (locate world.home table.uri)).start world = (.ok (), world) := by
    rw [start_openStore]
    split_ifs with htwin
    · rfl
    · obtain ⟨l, hl⟩ := h.isOpen.resolve_left htwin
      rw [hl]
      rfl
  have hplace : (world.tree.createDirectories world.home table.uri).1 =
      .ok (locate world.home table.uri) := by rw [hmade]
  rw [start_placeForWriting h.address hplace, hmade, Run.start_bind]
  simp only [hopen, Run.start_pure]

/-- A reader that does not find the directory of a table fails and changes nothing; otherwise it
does what a writer does. -/
theorem start_placeForReading_cases (table : Table) (world : World) :
    table.placeForReading.start world = (.error (.table .opening), world) ∨
      table.placeForReading.start world = table.placeForWriting.start world := by
  unfold placeForReading
  cases haddress : Address.ofUri table.uri with
  | store => exact Or.inl rfl
  | unknown => exact Or.inl rfl
  | directory path =>
    obtain rfl := eq_of_ofUri_eq_directory haddress
    simp only [Run.start_bind, Run.start_tree, Run.start_home]
    cases hresolve : world.tree.resolve world.home table.uri with
    | error fault => exact Or.inl rfl
    | ok place =>
      cases hdirectory : world.tree.isDirectory place with
      | false =>
        simp only [hdirectory, Bool.not_false, if_true]
        exact Or.inl rfl
      | true =>
        have hmade : world.tree.createDirectories world.home table.uri =
            (.ok place, world.tree) := by
          rw [createDirectories, hresolve]
          simp only [hdirectory, if_true]
        have hplace : (world.tree.createDirectories world.home table.uri).1 = .ok place := by
          rw [hmade]
        rw [start_placeForWriting haddress hplace, hmade]
        simp only [hdirectory, Bool.not_true, Bool.false_eq_true, if_false]
        exact Or.inr trivial

/-- Opening a store can fail in one way only. -/
theorem openStore_failsOnly {P : Failure → Prop} (h : P (.table .opening)) (place : Location) :
    (openStore place).FailsOnly P := by
  unfold openStore
  split_ifs
  · exact Run.failsOnly_pure ()
  · exact Run.failsOnly_tree.bind fun _ =>
      (Run.failsOnly_ofOutcome (fun _ => h) _).bind fun _ => Run.failsOnly_pure ()

/-- A snapshot that cannot be read fails in one way only. -/
theorem snapshotAt_failsOnly {P : Failure → Prop} (h : P (.table .opening)) (place : Location) :
    (snapshotAt place).FailsOnly P := by
  unfold snapshotAt
  refine Run.failsOnly_tree.bind fun tree => ?_
  split
  · exact Run.failsOnly_pure _
  · exact Run.failsOnly_throw h

/-- Readers that do not get to a table fail to open it. -/
theorem placeForReading_failsOnly (table : Table) :
    table.placeForReading.FailsOnly fun failure => failure = .table .opening := by
  have hopen : ∀ place : Location, (do
      openStore place
      return place : Run Location).FailsOnly fun failure => failure = .table .opening := by
    intro place
    refine Run.FailsOnly.bind (openStore_failsOnly ?_ place) fun _ => Run.failsOnly_pure place
    rfl
  unfold placeForReading
  split
  · refine Run.failsOnly_tree.bind fun tree => Run.failsOnly_home.bind fun home => ?_
    split
    · exact Run.failsOnly_throw rfl
    · split_ifs
      · exact Run.FailsOnly.bind (Run.failsOnly_throw rfl) fun _ => hopen _
      · exact hopen _
  · exact Run.failsOnly_throw rfl

end LogTable.Table
