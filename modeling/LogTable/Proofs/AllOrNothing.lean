import LogTable.Proofs.Table.SameTable
import LogTable.Proofs.TableNames

/-!
# Removals that are all or nothing

A removal is all or nothing if it takes the directory away and says so, or else leaves everything as
it is (`StorageMode.IsAllOrNothing`).  The address of a name with a slash inside ends in a dot
(`StorageMode.getLast?_fullNames_of_slash`), and a directory that is named by a dot is emptied but
cannot be taken away itself.  So a removal at the address of an accepted name is all or nothing
unless the name is written with such a dot and the directory holds something.  Main statement:
`StorageMode.isAllOrNothing_resetLocal_iff`.
-/

namespace LogTable

open FileTree

namespace FileTree

variable {α : Type} {tree : FileTree α} {place : Location}

/-! ### Emptied directories -/

/-- `after` is `before` without what lies below a place. -/
def IsEmptied (place : Location) (before after : FileTree α) : Prop :=
  ∀ l, after.find? l = if place <+: l ∧ l ≠ place then none else before.find? l

/-- Nothing stands below a place. -/
def HoldsNothing (tree : FileTree α) (place : Location) : Prop :=
  ∀ l, place <+: l → l ≠ place → tree.find? l = none

theorem isEmptied_removeBelow (tree : FileTree α) (place : Location) :
    IsEmptied place tree (tree.removeBelow place) := by
  intro l
  simp only [find?_removeBelow, isBelow_eq_true]

/-- What has been emptied is the same as before only if it was empty. -/
theorem IsEmptied.holdsNothing (h : IsEmptied place tree tree) : tree.HoldsNothing place :=
  fun l hbelow hne => by rw [h l, if_pos ⟨hbelow, hne⟩]

/-- Emptying a directory that holds nothing changes nothing. -/
theorem removeBelow_eq_self (h : tree.HoldsNothing place) : tree.removeBelow place = tree := by
  obtain ⟨entries, nodup⟩ := tree
  simp only [removeBelow, keep, FileTree.mk.injEq, List.filter_eq_self, Bool.not_eq_true']
  rintro ⟨l, e⟩ hmem
  rw [← Bool.not_eq_true, isBelow_eq_true]
  rintro ⟨hbelow, hne⟩
  have htop : l ≠ [] := by
    rintro rfl
    exact hne (List.prefix_nil.mp hbelow).symm
  have hfind := (find?_eq_some_iff ⟨entries, nodup⟩ htop).mpr hmem
  rw [h l hbelow hne] at hfind
  cases hfind

/-- A directory whose path ends in a dot is emptied, but not removed. -/
theorem removeDirectory_of_dot {home : Location} {path : String} (h : tree.FindsDirectory home path)
    (hlast : (fullNames path).getLast? = some ".") :
    tree.removeDirectory home path =
      (.error .invalidArgument, tree.removeBelow (locate home path)) := by
  rw [removeDirectory, h.1]
  simp only [isDirectory_eq_true.mpr h.2, Bool.not_true, Bool.false_eq_true, if_false, hlast]

/-- Where no directory is found, nothing is removed. -/
theorem removeDirectory_of_not_findsDirectory {home : Location} {path : String}
    (h : ¬ tree.FindsDirectory home path) :
    ∃ fault, tree.removeDirectory home path = (.error fault, tree) ∧
      (fault = .notFound → tree.resolve home path = .error .notFound) := by
  cases hresolve : tree.resolve home path with
  | error fault =>
    refine ⟨fault, removeDirectory_of_error hresolve, fun hfault => by rw [hfault]⟩
  | ok location =>
    obtain rfl := eq_locate_of_resolve hresolve
    have hfile : tree.isDirectory (locate home path) = false := by
      rw [← Bool.not_eq_true, isDirectory_eq_true]
      exact fun hdirectory => h ⟨hresolve, hdirectory⟩
    exact ⟨.notADirectory, removeDirectory_of_file hresolve hfile, nofun⟩

end FileTree

namespace StorageMode

variable {name root uri : String} {world : World}

/-- The address of an accepted name with a slash inside ends in a dot. -/
theorem getLast?_fullNames_of_slash (huri : localFiles.tableUri name root = .ok uri)
    (hslash : '/' ∈ (trimSlashes name).toList) : (fullNames uri).getLast? = some "." := by
  obtain ⟨segment, ⟨-, -, rest, hnames, hrest⟩, -⟩ := exists_isChildName_of_tableUri huri
  obtain ⟨-, rfl⟩ := tableUri_localFiles_eq_ok_iff.mp huri
  -- the last slash parts the last name from the others
  obtain ⟨back, front, hsplit, hback⟩ :=
    List.eq_append_cons_of_mem (List.mem_reverse.mpr hslash)
  have htrimmed : trimSlashes name =
      String.ofList front.reverse ++ "/" ++ String.ofList back.reverse := by
    rw [← String.toList_inj, ← List.reverse_inj, hsplit]
    simp
  set last := String.ofList back.reverse with hlast
  have hnoslash : '/' ∉ last.toList := by simpa [hlast] using hback
  have hne : last ≠ "" := by
    intro hempty
    refine getLast?_trimSlashes name ?_
    rw [htrimmed, hempty]
    simp
  have hdot : last = "." := by
    rw [htrimmed, pathNames_append_slash, pathNames_of_not_mem hnoslash] at hnames
    obtain ⟨first, others, hfront⟩ :=
      List.exists_cons_of_ne_nil (pathNames_ne_nil (String.ofList front.reverse))
    rw [hfront, List.cons_append, List.cons.injEq] at hnames
    refine (hrest last ?_).resolve_left hne
    rw [← hnames.2]
    exact List.mem_append_right _ (List.mem_singleton_self last)
  rw [fullNames_joinPath (head?_trimSlashes name), htrimmed, fullNames_append_slash,
    fullNames_of_not_mem hnoslash hne, hdot, ← List.append_assoc]
  exact List.getLast?_concat

/-! ### All or nothing -/

/-- A removal has taken the directory away and says so, has found nothing and left everything as it
is, or fails and has left everything as it is. -/
def IsAllOrNothing (path : String) (world : World) (answer : Except Failure Bool)
    (after : World) : Prop :=
  match answer with
  | .ok true => world.tree.FindsDirectory world.home path ∧ after.home = world.home ∧
      IsCut (locate world.home path) world.tree after.tree
  | .ok false => world.tree.resolve world.home path = .error .notFound ∧ after = world
  | .error failure => (∃ fault, failure = .fault (.files path fault)) ∧ after = world

/-- Where no directory is found, a removal leaves everything as it is. -/
theorem isAllOrNothing_of_not_findsDirectory
    (h : ¬ world.tree.FindsDirectory world.home uri) :
    IsAllOrNothing uri world ((localFiles.resetLocal uri).start world).1
      ((localFiles.resetLocal uri).start world).2 := by
  obtain ⟨fault, hremoved, hfault⟩ := removeDirectory_of_not_findsDirectory h
  rw [start_resetLocal, hremoved]
  cases fault with
  | notFound => exact ⟨hfault rfl, rfl⟩
  | _ => exact ⟨⟨_, rfl⟩, rfl⟩

/-- A directory whose path ends in a plain name is taken away. -/
theorem isAllOrNothing_of_plain (huri : localFiles.tableUri name root = .ok uri)
    (hslash : '/' ∉ (trimSlashes name).toList) (h : world.tree.FindsDirectory world.home uri) :
    IsAllOrNothing uri world ((localFiles.resetLocal uri).start world).1
      ((localFiles.resetLocal uri).start world).2 := by
  obtain ⟨hlast, hplain⟩ := getLast?_fullNames huri hslash
  rw [start_resetLocal, removeDirectory_of_plain h hlast hplain]
  exact ⟨h, rfl, isCut_remove world.tree (locate_ne_nil_of_tableUri huri world.home)⟩

/-- A directory whose path ends in a dot is emptied, and the removal fails. -/
theorem start_resetLocal_of_dot (hlast : (fullNames uri).getLast? = some ".")
    (h : world.tree.FindsDirectory world.home uri) :
    (localFiles.resetLocal uri).start world =
      (.error (.fault (.files uri .invalidArgument)),
        { world with tree := world.tree.removeBelow (locate world.home uri) }) := by
  rw [start_resetLocal, removeDirectory_of_dot h hlast]

/-- A removal that fails at a directory whose path ends in a dot is all or nothing exactly if the
directory holds nothing. -/
theorem isAllOrNothing_iff_of_dot (hlast : (fullNames uri).getLast? = some ".")
    (h : world.tree.FindsDirectory world.home uri) :
    IsAllOrNothing uri world ((localFiles.resetLocal uri).start world).1
        ((localFiles.resetLocal uri).start world).2 ↔
      world.tree.HoldsNothing (locate world.home uri) := by
  rw [start_resetLocal_of_dot hlast h]
  refine ⟨fun ⟨_, hsame⟩ => ?_, fun hempty => ⟨⟨_, rfl⟩, ?_⟩⟩
  · have hemptied := isEmptied_removeBelow world.tree (locate world.home uri)
    rw [show world.tree.removeBelow (locate world.home uri) = world.tree from
      congrArg World.tree hsame] at hemptied
    exact hemptied.holdsNothing
  · rw [removeBelow_eq_self hempty]

/-- After a removal that succeeds there is nothing left for another one. -/
theorem start_resetLocal_again (huri : localFiles.tableUri name root = .ok uri) {removed : Bool}
    {after : World} (h : (localFiles.resetLocal uri).start world = (.ok removed, after)) :
    (localFiles.resetLocal uri).start after = (.ok false, after) := by
  have hcases := (resetLocal_ensures_isCut huri world).of_ok h
  cases removed with
  | true =>
    obtain ⟨⟨hresolve, -⟩, hhome, -, hcut⟩ := hcases
    rw [← hhome] at hcut hresolve
    exact start_resetLocal_of_error
      (hcut.isVacant.resolve_eq_notFound hcut.agreeOutside.symm hresolve)
  | false =>
    obtain ⟨hresolve, rfl⟩ := hcases
    exact start_resetLocal_of_error hresolve

/-- If nothing is found at the address of a name although all directories of the root are there,
then nothing stands in the place of the table. -/
theorem find?_eq_none_of_resolve_eq_notFound (huri : localFiles.tableUri name root = .ok uri)
    (hroot : Table.IsPassable world.home root world.tree)
    (h : world.tree.resolve world.home uri = .error .notFound) :
    world.tree.find? (locate world.home uri) = none := by
  obtain ⟨l, hvisits, hnone⟩ :=
    exists_visits_of_resolve_eq_notFound (ne_empty_of_tableUri huri) h
  rcases (Table.visits_iff_of_tableUri huri world.home).mp hvisits with hl | rfl
  · rw [hroot l hl] at hnone
    cases hnone
  · exact hnone

/-- The removal of a local table at the address of an accepted name is all or nothing, unless the
name has a slash inside and a directory is found that holds something: this directory is emptied,
and the removal fails.  A removal that succeeds leaves nothing for another one, one that finds
nothing shows that nothing stands in the place of the table if the directories of the root are all
there, and tables in object stores are left alone. -/
theorem isAllOrNothing_resetLocal_iff (huri : localFiles.tableUri name root = .ok uri)
    (world : World) :
    (IsAllOrNothing uri world ((localFiles.resetLocal uri).start world).1
        ((localFiles.resetLocal uri).start world).2 ↔
      '/' ∉ (trimSlashes name).toList ∨ ¬ world.tree.FindsDirectory world.home uri ∨
        world.tree.HoldsNothing (locate world.home uri)) ∧
    ('/' ∈ (trimSlashes name).toList → world.tree.FindsDirectory world.home uri →
      ((localFiles.resetLocal uri).start world).1 =
          .error (.fault (.files uri .invalidArgument)) ∧
        IsEmptied (locate world.home uri) world.tree
          ((localFiles.resetLocal uri).start world).2.tree) ∧
    (∀ removed after, (localFiles.resetLocal uri).start world = (.ok removed, after) →
      (localFiles.resetLocal uri).start after = (.ok false, after)) ∧
    (Table.IsPassable world.home root world.tree →
      ((localFiles.resetLocal uri).start world).1 = .ok false →
        world.tree.find? (locate world.home uri) = none) ∧
    ∀ (store : ObjectStore) (path : String),
      ((objectStore store).resetLocal path).start world = (.ok false, world) := by
  refine ⟨?_, fun hslash hfinds => ?_, fun removed after => start_resetLocal_again huri,
    fun hroot hfalse => ?_, fun store path => rfl⟩
  · by_cases hfinds : world.tree.FindsDirectory world.home uri
    · by_cases hslash : '/' ∈ (trimSlashes name).toList
      · rw [isAllOrNothing_iff_of_dot (getLast?_fullNames_of_slash huri hslash) hfinds]
        simp [hslash, hfinds]
      · exact ⟨fun _ => Or.inl hslash, fun _ => isAllOrNothing_of_plain huri hslash hfinds⟩
    · exact ⟨fun _ => Or.inr (Or.inl hfinds), fun _ => isAllOrNothing_of_not_findsDirectory hfinds⟩
  · rw [start_resetLocal_of_dot (getLast?_fullNames_of_slash huri hslash) hfinds]
    exact ⟨rfl, isEmptied_removeBelow _ _⟩
  · have hcases := (resetLocal_ensures_isCut huri world).of_ok (Prod.ext hfalse rfl)
    exact find?_eq_none_of_resolve_eq_notFound huri hroot hcases.1

/-- A table whose name is written without slashes is removed as a whole. -/
theorem isAllOrNothing_resetLocal_plain :
    let world := (((Operation.append [⟨1, "a", 0, "odd_user"⟩] []).run ⟨"./t/"⟩).start .fresh).2
    let removal := (localFiles.resetLocal "./t/").start world
    removal.1 = .ok true ∧ IsAllOrNothing "./t/" world removal.1 removal.2 := by
  intro world removal
  have huri : localFiles.tableUri "/t" "." = .ok "./t/" := by decide +kernel
  exact ⟨by decide +kernel,
    (isAllOrNothing_resetLocal_iff huri world).1.mpr (Or.inl (by decide +kernel))⟩

/-- A table whose name is written with a dot behind it is gone after a removal that fails. -/
theorem not_isAllOrNothing_of_dot :
    let world := (((Operation.append [⟨1, "a", 0, "odd_user"⟩] []).run ⟨"./t/"⟩).start .fresh).2
    let removal := (localFiles.resetLocal "./t/./").start world
    localFiles.tableUri "t/." "." = .ok "./t/./" ∧
      removal.1 = .error (.fault (.files "./t/./" .invalidArgument)) ∧
      ¬ IsAllOrNothing "./t/./" world removal.1 removal.2 := by
  intro world removal
  have herror : removal.1 = .error (.fault (.files "./t/./" .invalidArgument)) := by decide +kernel
  refine ⟨by decide +kernel, herror, fun h => ?_⟩
  rw [herror] at h
  have hlog : removal.2.tree.isDirectory ["work", "t", "_delta_log"] =
      world.tree.isDirectory ["work", "t", "_delta_log"] := by rw [h.2]
  exact absurd hlog (by decide +kernel)

end StorageMode

end LogTable
