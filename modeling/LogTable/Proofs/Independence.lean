import LogTable.Proofs.Table.SameTable
import LogTable.Proofs.Turns

/-!
# Independent tables

Two tables below one root do not get in each other's way (`Table.StandsClear`), if their segments
differ, neither is the other one as addresses write it, and the way of the root stays out of both
places.  What is done to one of them then leaves the other one the same
(`Table.SameTable.of_confined`), although it may add directories that both of them need.

Main statement: `Task.independent`, by which tasks on two tables, in any order, are answered as they
are without the tasks on the other table, and leave the same in the place of each.
-/

namespace LogTable

open FileTree Predicate

/-! ### Neighbours -/

/-- What lies at or below a location does not lie below its neighbours. -/
theorem FileTree.not_prefix_of_ne {parent path : Location} {segment other : String}
    (hne : other ≠ segment) : ¬ parent ++ [other] <+: parent ++ [segment] ++ path := by
  rintro ⟨rest, hrest⟩
  simp only [List.append_assoc, List.append_cancel_left_eq, List.singleton_append,
    List.cons.injEq] at hrest
  exact hne hrest.1

/-- A change that is confined to a place leaves the files elsewhere as they are. -/
theorem FileTree.Confined.sameFiles {α : Type} {place : Location} {outside P : Location → Prop}
    {before after : FileTree α} (h : Confined place outside before after)
    (hP : ∀ l, P l → ¬ place <+: l) : SameFiles P after before := by
  intro l hl
  have hout := hP l hl
  constructor
  · rintro ⟨content, hafter⟩
    cases hbefore : before.find? l with
    | none => cases (h.added hout hbefore hafter).1
    | some entry =>
      obtain rfl := Option.some.inj ((h.kept hout hbefore).symm.trans hafter)
      exact ⟨content, rfl⟩
  · rintro ⟨content, hbefore⟩
    exact ⟨content, h.kept hout hbefore⟩

namespace Table

variable {home : Location} {name root uri other : String} {world world' after : World}

/-- The way to the twin of a table leads neither to nor below a neighbour of another name than the
twin's. -/
theorem not_passes_twin_of_ne {parent path : Location} {segment other : String}
    (hne : Text.percentEncoded isAddressCharacter other ≠ segment) :
    ¬ Passes [] (twin (parent ++ [other])) (parent ++ [segment] ++ path) := by
  rintro ⟨front, name, rest, htwin, -, heq⟩
  have hlength := congrArg List.length htwin
  have hlength' := congrArg List.length heq
  have hfollow := Table.length_follow_le [] front
  simp only [twin, List.map_append, List.map_cons, List.map_nil, List.length_append,
    List.length_map, List.length_cons, List.length_nil] at hlength hlength' hfollow
  obtain rfl : rest = [] := List.eq_nil_of_length_eq_zero (by omega)
  obtain rfl : path = [] := List.eq_nil_of_length_eq_zero (by omega)
  have hlast := congrArg List.getLast? htwin
  have hlast' := congrArg List.getLast? heq
  simp only [twin, List.map_append, List.map_cons, List.map_nil, List.append_nil,
    List.getLast?_concat, Option.some.injEq] at hlast hlast'
  exact hne (hlast.trans hlast'.symm)

/-- Another table below the root does not get in the way of a table: the other place and what is
made on the way to it are not in the place of the table, and neither the root nor the twin of the
table leads to the other place. -/
structure StandsClear (home : Location) (root uri other : String) : Prop where
  place : ∀ path, ¬ locate home other <+: locate home uri ++ path
  onTheWay : ∀ path, ¬ OnTheWay home other (locate home uri ++ path)
  twin : ∀ l, Passes [] (twin (locate home uri)) l → ¬ locate home other <+: l
  root : StaysOut home root (locate home other)

/-- Tables of different segments stand clear of each other, unless one is the twin of the other or
the way of the root leads into one of the places. -/
theorem standsClear_of_tableUri {name' segment segment' : String}
    (huri : StorageMode.localFiles.tableUri name root = .ok uri)
    (hother : StorageMode.localFiles.tableUri name' root = .ok other)
    (hsegment : plainSegment? (trimSlashes name) = some segment)
    (hsegment' : plainSegment? (trimSlashes name') = some segment') (hne : segment' ≠ segment)
    (htwin : Text.percentEncoded isAddressCharacter segment ≠ segment')
    (htwin' : Text.percentEncoded isAddressCharacter segment' ≠ segment)
    (hout : StaysOut home root (locate home uri)) (hout' : StaysOut home root (locate home other)) :
    StandsClear home root uri other := by
  have hplace : locate home uri = locate home root ++ [segment] := by
    obtain ⟨found, hfound, -, hlocate⟩ := StorageMode.locate_of_tableUri huri home
    rw [hlocate, Option.some.inj (hfound.symm.trans hsegment)]
  have hplace' : locate home other = locate home root ++ [segment'] := by
    obtain ⟨found, hfound, -, hlocate⟩ := StorageMode.locate_of_tableUri hother home
    rw [hlocate, Option.some.inj (hfound.symm.trans hsegment')]
  have hapart : ∀ path, ¬ locate home other <+: locate home uri ++ path := by
    intro path
    rw [hplace, hplace']
    exact not_prefix_of_ne hne
  refine ⟨hapart, ?_, ?_, hout'⟩
  · rintro path (hpasses | ⟨-, hpasses⟩)
    · rcases (visits_iff_of_tableUri hother home).mp hpasses.visits with hroot | heq
      · exact hout _ hroot (List.prefix_append _ _)
      · exact hapart path (heq ▸ List.prefix_refl _)
    · rw [hplace, hplace'] at hpasses
      exact not_passes_twin_of_ne htwin' hpasses
  · rintro l hpasses ⟨path, rfl⟩
    rw [hplace, hplace'] at hpasses
    exact not_passes_twin_of_ne htwin hpasses

namespace StandsClear

/-- The address of a table does not lead by the place of a table that stands clear. -/
theorem not_prefix_of_visits (hclear : StandsClear home root uri other)
    (huri : StorageMode.localFiles.tableUri name root = .ok uri) {l : Location}
    (hl : Visits (pathStart home uri) (pathSteps uri) l) : ¬ locate home other <+: l := by
  rcases (visits_iff_of_tableUri huri home).mp hl with hroot | rfl
  · exact hclear.root l hroot
  · simpa using hclear.place []

/-- What is done to a table that stands clear makes no difference in the place of a table. -/
theorem find?_eq (hclear : StandsClear home root uri other)
    (hconfined : Confined (locate home other) (OnTheWay home other) world.tree after.tree)
    (path : Location) :
    after.tree.find? (locate home uri ++ path) = world.tree.find? (locate home uri ++ path) := by
  cases hbefore : world.tree.find? (locate home uri ++ path) with
  | some entry => exact hconfined.kept (hclear.place path) hbefore
  | none =>
    cases hafter : after.tree.find? (locate home uri ++ path) with
    | none => rfl
    | some entry =>
      have hway := (hconfined.added (hclear.place path) hbefore hafter).2
      exact absurd hway (hclear.onTheWay path)

/-- A place that can be made can still be made after what is done to a table that stands clear. -/
theorem canBeMade (hclear : StandsClear home root uri other)
    (huri : StorageMode.localFiles.tableUri name root = .ok uri)
    (hconfined : Confined (locate home other) (OnTheWay home other) world.tree after.tree)
    (h : CanBeMade home uri world.tree) : CanBeMade home uri after.tree := by
  obtain ⟨hstarts, ⟨l, hmakes⟩, hvacant⟩ := h
  have hstarts' : ∀ l, l <+: pathStart home uri → after.tree.find? l = some .directory := by
    intro l hl
    refine hconfined.kept (fun hbelow => ?_) (hstarts l hl)
    exact hclear.not_prefix_of_visits huri visits_start (hbelow.trans hl)
  have hfiles : SameFiles (Passes (pathStart home uri) (pathSteps uri)) after.tree world.tree :=
    hconfined.sameFiles fun l hl => hclear.not_prefix_of_visits huri hl.visits
  have hsame := makeDirectories_congr_of_files hfiles fun l hl => ⟨hstarts' l hl, hstarts l hl⟩
  refine ⟨hstarts', ⟨l, hsame.1.trans hmakes⟩, ?_⟩
  rintro _ ⟨path, rfl⟩
  rw [hclear.find?_eq hconfined, hvacant _ (List.prefix_append _ _)]

end StandsClear

/-- What is done to a table that stands clear leaves the table the same. -/
theorem SameTable.of_confined (huri : StorageMode.localFiles.tableUri name root = .ok uri)
    (hclear : StandsClear home root uri other) (h : SameTable home root uri world world')
    (hhome : after.home = home)
    (hconfined : Confined (locate home other) (OnTheWay home other) world.tree after.tree) :
    SameTable home root uri after world' := by
  have hne : uri ≠ "" := StorageMode.ne_empty_of_tableUri huri
  refine ⟨hhome, h.home_eq', fun path => ?_, fun l hl => ?_, ?_⟩
  · rw [hclear.find?_eq hconfined, h.below]
  · rw [hconfined.sameFiles hclear.twin l hl, h.files l hl]
  cases h.way with
  | passable hfirst hsecond =>
    exact .passable (fun l hl => hconfined.kept (hclear.root l hl) (hfirst l hl)) hsecond
  | failing fault hfirst hsecond hmissing =>
    have hcan : fault = .notFound → CanBeMade home uri after.tree :=
      fun hfault => hclear.canBeMade huri hconfined (hmissing hfault).1
    refine .failing fault ?_ hsecond fun hfault => ⟨hcan hfault, (hmissing hfault).2⟩
    by_cases hfault : fault = .notFound
    · subst hfault
      exact (hcan rfl).resolve_eq hne hfirst
    · rw [← hfirst]
      refine resolve_eq_of_kept (by simpa [hfirst] using hfault) ?_
      exact fun l hl e => hconfined.kept (hclear.not_prefix_of_visits huri hl)

/-- Whoever finds something at the address of a name comes by the way of the root. -/
theorem isPassable_of_resolve {tree : FileTree Content} {l : Location}
    (huri : StorageMode.localFiles.tableUri name root = .ok uri)
    (hresolve : tree.resolve home uri = .ok l) : IsPassable home root tree := by
  obtain ⟨segment, -, -, hstart, hsteps⟩ := StorageMode.pathSteps_of_tableUri huri home
  intro l' hl'
  rw [← hstart] at hl'
  unfold resolve at hresolve
  split_ifs at hresolve
  exact find?_of_visits_front_of_walk hresolve hsteps hl'

/-- A world has the same table as itself, unless something is missing on the way of the root that
cannot be made, or for want of which the table is not seen. -/
theorem SameTable.refl (huri : StorageMode.localFiles.tableUri name root = .ok uri)
    (hmissing : world.tree.resolve world.home uri = .error .notFound →
      IsPassable world.home root world.tree ∨ CanBeMade world.home uri world.tree) :
    SameTable world.home root uri world world := by
  refine ⟨rfl, rfl, fun _ => rfl, fun _ _ => Iff.rfl, ?_⟩
  by_cases hpassable : IsPassable world.home root world.tree
  · exact .passable hpassable hpassable
  · cases hresolve : world.tree.resolve world.home uri with
    | ok l => exact absurd (isPassable_of_resolve huri hresolve) hpassable
    | error fault =>
      refine .failing fault hresolve hresolve fun hfault => ?_
      subst hfault
      have hcan := (hmissing hresolve).resolve_left hpassable
      exact ⟨hcan, hcan⟩

end Table

/-! ### Tasks on two tables -/

/-- A task does the same in related worlds if the operations on its table do. -/
theorem Task.alike_run [Engine] {R : World → World → Prop} {storage : StorageMode}
    {name root uri : String} (h : Operations.AreAlike R storage uri)
    (huri : storage.tableUri name root = .ok uri) (task : Task) :
    (task.run storage name root).Alike R (task.run storage name root) := by
  cases task with
  | step single =>
    refine Run.Alike.bind ?_ fun answer => Run.alike_pure _
    rw [single.run_of_tableUri huri]
    exact single.alike_runAt h
  | scenario whole clock =>
    exact ((whole.onTable name root).alike_run h clock huri).bind fun report => Run.alike_pure _

/-- Of tasks on two tables below one root, those on either table are answered as they are without
the others, and leave the same in the place of the table.  The segments of the names differ, and
none is the other one as addresses write it; the way of the root stays out of both places; and if a
table is not found at first, then the way of the root is there, or nothing stands in the place of
the table and its directories can be made. -/
theorem Task.independent [Engine] {names uris segments : Bool → String} {root : String}
    {world : World} (huri : ∀ b, StorageMode.localFiles.tableUri (names b) root = .ok (uris b))
    (hsegment : ∀ b, plainSegment? (trimSlashes (names b)) = some (segments b))
    (hne : segments true ≠ segments false)
    (htwin : ∀ b, Text.percentEncoded Table.isAddressCharacter (segments b) ≠ segments !b)
    (hout : ∀ b, Table.StaysOut world.home root (locate world.home (uris b)))
    (hmissing : ∀ b, world.tree.resolve world.home (uris b) = .error .notFound →
      Table.IsPassable world.home root world.tree ∨
        Table.CanBeMade world.home (uris b) world.tree)
    (items : List (Bool × Task)) (b : Bool) :
    let run := fun item : Bool × Task => item.2.run .localFiles (names item.1) root
    let together := Run.inTurn (items.map run) world
    let alone := Run.inTurn ((items.filter (·.1 == b)).map run) world
    Run.answersTo (·.1 == b) items together.1 = alone.1 ∧
      ∀ path, together.2.tree.find? (locate world.home (uris b) ++ path) =
        alone.2.tree.find? (locate world.home (uris b) ++ path) := by
  have halike := Operations.areAlike_sameTable (huri b) (hout b)
  have hothers : segments (!b) ≠ segments b := by
    cases b with
    | true => exact hne.symm
    | false => exact hne
  have hclear : Table.StandsClear world.home root (uris b) (uris !b) := by
    have htwin' := htwin !b
    rw [Bool.not_not] at htwin'
    exact Table.standsClear_of_tableUri (huri b) (huri !b) (hsegment b) (hsegment !b) hothers
      (htwin b) htwin' (hout b) (hout !b)
  have hstays := Operations.respect_staysWithin .localFiles world.home
    (StorageMode.locate_ne_nil_of_tableUri (huri !b) world.home)
  have hstart : Table.SameTable world.home root (uris b) world world :=
    .refl (huri b) (hmissing b)
  have hkept : ∀ item ∈ items, (item.1 == b) = true → ∀ first second : World,
      Table.SameTable world.home root (uris b) first second →
      ((item.2.run .localFiles (names item.1) root).start first).1 =
          ((item.2.run .localFiles (names item.1) root).start second).1 ∧
        Table.SameTable world.home root (uris b)
          ((item.2.run .localFiles (names item.1) root).start first).2
          ((item.2.run .localFiles (names item.1) root).start second).2 := by
    rintro ⟨mine, task⟩ - hmine first second h
    obtain rfl : mine = b := by simpa using hmine
    exact task.alike_run halike (huri mine) h
  have hleft : ∀ item ∈ items, (item.1 == b) = false → ∀ first second : World,
      Table.SameTable world.home root (uris b) first second →
      Table.SameTable world.home root (uris b)
        ((item.2.run .localFiles (names item.1) root).start first).2 second := by
    rintro ⟨theirs, task⟩ - htheirs first second h
    obtain rfl : theirs = !b := by
      cases theirs <;> cases b <;> simp_all
    obtain ⟨hhome, hconfined⟩ := task.respects_run hstays (huri !b) first h.home_eq
    exact h.of_confined (huri b) hclear hhome hconfined
  obtain ⟨hanswers, hlast⟩ := Run.inTurn_filter hkept hleft hstart
  exact ⟨hanswers, hlast.below⟩

/-- On the fresh machine nothing stands below the home directory. -/
theorem World.isVacant_fresh {place : Location} (h : 1 < place.length) :
    World.fresh.tree.IsVacant place := by
  intro l hl
  have hlength := hl.length_le
  have hwork : l ≠ ["work"] := by
    rintro rfl
    exact absurd (Nat.lt_of_lt_of_le h hlength) (Nat.lt_irrefl 1)
  have hnil : l ≠ [] := by
    rintro rfl
    exact absurd (Nat.lt_of_lt_of_le h hlength) (Nat.not_lt_zero 1)
  rw [World.fresh, find?_put _ _ _ (by decide), if_neg hwork, find?_of_ne_nil _ hnil]
  rfl

/-- On the fresh machine, two tables below a directory that is not there yet; one of them has a
twin. -/
theorem Task.independent_fresh :
    let names : Bool → String := fun b => if b then "a" else "b%"
    let run := fun item : Bool × Task => item.2.run .localFiles (names item.1) "x"
    let items : List (Bool × Task) := [(false, .step .summary),
      (true, .step (.append 1 3 ⟨0⟩ "a" ["user"])), (false, .step (.append 1 1 ⟨0⟩ "b" [])),
      (true, .step .checkpoint), (false, .step .reset), (true, .step .summary)]
    let together := Run.answersTo (·.1 == true) items (Run.inTurn (items.map run) .fresh).1
    together = (Run.inTurn ((items.filter (·.1 == true)).map run) .fresh).1 ∧
      together = [.ok (.step (.version 0)), .ok (.step (.version 0)),
        .ok (.step (.summary ⟨0, 3, 2⟩))] := by
  intro names run items together
  let uris : Bool → String := fun b => if b then "x/a/" else "x/b%/"
  let segments : Bool → String := fun b => if b then "a" else "b%"
  have huri : ∀ b, StorageMode.localFiles.tableUri (names b) "x" = .ok (uris b) := by
    decide +kernel
  have hsegment : ∀ b, plainSegment? (trimSlashes (names b)) = some (segments b) := by
    decide +kernel
  have htwin : ∀ b, Text.percentEncoded Table.isAddressCharacter (segments b) ≠ segments !b := by
    decide +kernel
  have hplace : ∀ b, locate World.fresh.home (uris b) = ["work", "x", segments b] := by
    decide +kernel
  have hmakes : ∀ b, (World.fresh.tree.makeDirectories (pathStart World.fresh.home (uris b))
      (pathSteps (uris b))).1 = .ok ["work", "x", segments b] := by
    decide +kernel
  have hout : ∀ b, Table.StaysOut World.fresh.home "x" (locate World.fresh.home (uris b)) := by
    rintro b l ⟨front, hfront, rfl⟩ hbelow
    have hsteps : pathSteps "x" = ["x"] := by decide +kernel
    have hfollow := Table.length_follow_le (pathStart World.fresh.home "x") front
    have hstart : (pathStart World.fresh.home "x").length = 1 := by decide +kernel
    have hfront' := hfront.length_le
    have hlength := hbelow.length_le
    rw [hsteps] at hfront'
    simp only [hplace, List.length_cons, List.length_nil] at hlength hfront'
    omega
  have hcan : ∀ b, Table.CanBeMade World.fresh.home (uris b) World.fresh.tree := by
    intro b
    have hstart : ∀ b, pathStart World.fresh.home (uris b) = World.fresh.home := by decide +kernel
    refine ⟨fun l hl => ?_, ⟨_, hmakes b⟩, World.isVacant_fresh (by simp [hplace])⟩
    rw [hstart] at hl
    exact World.isSound_fresh.closed.of_prefix hl World.isSound_fresh.home
  exact ⟨(independent huri hsegment (by decide) htwin hout (fun b _ => .inr (hcan b)) items true).1,
    by decide +kernel⟩

/-- Where the way of the root leads into the place of a table, the removal of that table keeps the
other one from being found.  Where the way is not there, a table is found as soon as the other one
has made it; and if something else is in the way behind that, there is no removal any more that
finds nothing. -/
theorem Task.not_independent_of_way :
    let names : Bool → String := fun b => if b then "a" else "b"
    let run := fun (root : String) (item : Bool × Task) =>
      item.2.run .localFiles (names item.1) root
    let together := fun root world (items : List (Bool × Task)) (b : Bool) =>
      Run.answersTo (·.1 == b) items (Run.inTurn (items.map (run root)) world).1
    let alone := fun root world (items : List (Bool × Task)) (b : Bool) =>
      (Run.inTurn ((items.filter (·.1 == b)).map (run root)) world).1
    let append : Task := .step (.append 1 1 ⟨0⟩ "a" [])
    let removal : List (Bool × Task) :=
      [(true, append), (false, .step .reset), (true, .step .summary)]
    let reading : List (Bool × Task) := [(true, append), (false, .step .summary)]
    let made : World := ((append.run .localFiles "b" ".").start .fresh).2
    let barred : World := { World.fresh with
      tree := World.fresh.tree.put ["work", "f"] (.file (.bytes .empty)) }
    (∀ b, plainSegment? (trimSlashes (names b)) = some (names b) ∧
      Text.percentEncoded Table.isAddressCharacter (names b) ≠ names !b) ∧
    names true ≠ names false ∧
    together "b/.." .fresh removal true ≠ alone "b/.." .fresh removal true ∧
    together "x/.." made reading false ≠ alone "x/.." made reading false ∧
    together "x/../f/.." barred removal false ≠ alone "x/../f/.." barred removal false ∧
    together "b/.." .fresh removal true = [.ok (.step (.version 0)), .error (.table .opening)] ∧
    alone "b/.." .fresh removal true =
      [.ok (.step (.version 0)), .ok (.step (.summary ⟨0, 1, 1⟩))] ∧
    together "x/.." made reading false = [.ok (.step (.summary ⟨0, 1, 1⟩))] ∧
    alone "x/.." made reading false = [.error (.table .opening)] ∧
    together "x/../f/.." barred removal false =
      [.error (.fault (.files "x/../f/../b/" .notADirectory))] ∧
    alone "x/../f/.." barred removal false = [.ok (.step (.removed false))] := by
  decide +kernel

end LogTable
