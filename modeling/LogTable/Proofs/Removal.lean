import LogTable.Proofs.FileTree.Directories
import LogTable.Proofs.FileTree.View
import LogTable.Proofs.Run
import LogTable.Proofs.TableUri
import LogTable.Reset

/-!
# Removal of tables

What is left when the directory of a table is removed.  The address of an accepted name does not
end in two dots, so a removal that succeeds cuts the place of the table off and changes nothing else
(`FileTree.IsCut`), and a removal that finds nothing leaves everything as it is.  Main statement:
`StorageMode.resetLocal_ensures_isCut`.
-/

namespace LogTable

open FileTree

namespace FileTree

variable {α : Type}

/-- A directory is found at a path. -/
def FindsDirectory (tree : FileTree α) (home : Location) (path : String) : Prop :=
  tree.resolve home path = .ok (locate home path) ∧
    tree.find? (locate home path) = some .directory

/-- `after` is `before` without a place and all that lies below. -/
def IsCut (place : Location) (before after : FileTree α) : Prop :=
  ∀ l, after.find? l = if place <+: l then none else before.find? l

/-- Nothing stands at or below a place. -/
def IsVacant (tree : FileTree α) (place : Location) : Prop :=
  ∀ l, place <+: l → tree.find? l = none

/-- The trees differ at and below a place only. -/
def AgreeOutside (first : FileTree α) (place : Location) (second : FileTree α) : Prop :=
  ∀ l, ¬ place <+: l → first.find? l = second.find? l

/-- What stands in the place of a path, if anything, is a directory that is found at the path. -/
def IsRemovable (tree : FileTree α) (home : Location) (path : String) : Prop :=
  tree.IsVacant (locate home path) ∨ tree.FindsDirectory home path

namespace IsVacant

variable {place : Location} {first second : FileTree α}

/-- Trees that agree outside of a place have the same view if the place is vacant in both. -/
theorem sameView (h : first.IsVacant place) (h' : second.IsVacant place)
    (houtside : first.AgreeOutside place second) : first.SameView second := by
  intro l
  by_cases hl : place <+: l
  · rw [h l hl, h' l hl]
  · exact houtside l hl

/-- What stands anywhere in a tree without the place stands in a tree with it as well. -/
theorem kept (h : first.IsVacant place) (houtside : first.AgreeOutside place second) (l : Location)
    (e : Entry α) (hl : first.find? l = some e) : second.find? l = some e := by
  rw [← houtside l fun hprefix => ?_, hl]
  rw [h l hprefix] at hl
  cases hl

/-- Nothing is found in a vacant place. -/
theorem resolve_ne_ok {home : Location} {path : String} (h : first.IsVacant (locate home path))
    (l : Location) : first.resolve home path ≠ .ok l := by
  intro hresolve
  have hsome := isSome_find?_of_resolve hresolve
  rw [h l (eq_locate_of_resolve hresolve ▸ List.prefix_refl _)] at hsome
  cases hsome

/-- Where a path is found in a tree with the place, nothing is found in the tree without it. -/
theorem resolve_eq_notFound {home l : Location} {path : String}
    (h : first.IsVacant (locate home path))
    (houtside : first.AgreeOutside (locate home path) second)
    (hresolve : second.resolve home path = .ok l) :
    first.resolve home path = .error .notFound :=
  (resolve_eq_ok_or_notFound (h.kept houtside) hresolve).resolve_left (h.resolve_ne_ok l)

end IsVacant

theorem AgreeOutside.symm {place : Location} {first second : FileTree α}
    (h : first.AgreeOutside place second) : second.AgreeOutside place first :=
  fun l hl => (h l hl).symm

theorem AgreeOutside.trans {place : Location} {first second third : FileTree α}
    (h : first.AgreeOutside place second) (h' : second.AgreeOutside place third) :
    first.AgreeOutside place third :=
  fun l hl => (h l hl).trans (h' l hl)

/-- Removing a directory other than the top, once it is empty, cuts it off. -/
theorem isCut_remove (tree : FileTree α) {place : Location} (hne : place ≠ []) :
    IsCut place tree ((tree.removeBelow place).remove place) := by
  intro l
  rw [find?_remove _ _ hne, find?_removeBelow]
  by_cases hprefix : place <+: l
  · rw [if_pos hprefix, if_pos (List.isPrefixOf_iff_prefix.mpr hprefix)]
  · rw [if_neg hprefix, if_neg fun h => hprefix (List.isPrefixOf_iff_prefix.mp h),
      if_neg fun h => hprefix (isBelow_eq_true.mp h).1]

theorem IsCut.isVacant {place : Location} {before after : FileTree α}
    (h : IsCut place before after) : after.IsVacant place :=
  fun l hl => by rw [h l, if_pos hl]

theorem IsCut.agreeOutside {place : Location} {before after : FileTree α}
    (h : IsCut place before after) : before.AgreeOutside place after :=
  fun l hl => by rw [h l, if_neg hl]

/-- A directory that is cut off was there before. -/
theorem IsCut.ne {place : Location} {before after : FileTree α} (h : IsCut place before after)
    (hdirectory : before.find? place = some .directory) : after ≠ before := by
  rintro rfl
  have hnone := h place
  rw [if_pos (List.prefix_refl place), hdirectory] at hnone
  cases hnone

/-- Nothing is removed through a path that leads nowhere. -/
theorem removeDirectory_of_error {tree : FileTree α} {home : Location}
    {path : String} {fault : PathFault} (hresolve : tree.resolve home path = .error fault) :
    tree.removeDirectory home path = (.error fault, tree) := by
  rw [removeDirectory, hresolve]

/-- A file is not removed as a directory. -/
theorem removeDirectory_of_file {tree : FileTree α} {home location : Location}
    {path : String} (hresolve : tree.resolve home path = .ok location)
    (hfile : tree.isDirectory location = false) :
    tree.removeDirectory home path = (.error .notADirectory, tree) := by
  rw [removeDirectory, hresolve]
  simp [hfile]

/-- When the directory at a path is removed, nothing stays below it, even if the directory itself
does. -/
theorem find?_removeDirectory_below {tree : FileTree α} {home : Location}
    {path : String} {location : Location} (hresolve : tree.resolve home path = .ok location)
    (hdirectory : tree.isDirectory location = true) {rest : Location} (hrest : rest ≠ []) :
    (tree.removeDirectory home path).2.find? (location ++ rest) = none := by
  have hemptied : (tree.removeBelow location).find? (location ++ rest) = none := by
    rw [find?_removeBelow, if_pos (by simp [isBelow, hrest])]
  have hremoved :
      ((tree.removeBelow location).remove location).find? (location ++ rest) = none := by
    have hprefix : location.isPrefixOf (location ++ rest) = true :=
      List.isPrefixOf_iff_prefix.mpr (List.prefix_append _ _)
    rw [find?_of_ne_nil _ (by simp [hrest])]
    simp only [remove, keep]
    rw [lookup_filter fun l => !location.isPrefixOf l, hprefix]
    rfl
  rw [removeDirectory, hresolve]
  simp only [hdirectory, Bool.not_true, Bool.false_eq_true, if_false]
  split
  · exact hemptied
  · exact hemptied
  · split <;> exact hemptied
  · exact hremoved

/-- A directory whose path ends in a plain name is removed with all that it holds. -/
theorem removeDirectory_of_plain {tree : FileTree α} {home : Location} {path name : String}
    (h : tree.FindsDirectory home path) (hlast : (fullNames path).getLast? = some name)
    (hplain : IsPlainName name) :
    tree.removeDirectory home path =
      (.ok (), (tree.removeBelow (locate home path)).remove (locate home path)) := by
  rw [removeDirectory, h.1]
  simp only [isDirectory_eq_true.mpr h.2, Bool.not_true, Bool.false_eq_true, if_false, hlast]
  split
  · cases ‹some name = none›
  · exact absurd (Option.some.inj ‹some name = some "."›) hplain.2.1
  · exact absurd (Option.some.inj ‹some name = some ".."›) hplain.2.2.1
  · rfl

/-- What a removal comes to, if the path does not end in two dots: it removes a directory that is
found, finds nothing and leaves everything as it is, or fails. -/
theorem removeDirectory_cases (tree : FileTree α) (home : Location) {path : String}
    (hlast : (fullNames path).getLast? ≠ some "..") :
    tree.FindsDirectory home path ∧ tree.removeDirectory home path =
        (.ok (), (tree.removeBelow (locate home path)).remove (locate home path)) ∨
      tree.resolve home path = .error .notFound ∧
        tree.removeDirectory home path = (.error .notFound, tree) ∨
      ∃ fault, fault ≠ .notFound ∧ (tree.removeDirectory home path).1 = .error fault := by
  cases hresolve : tree.resolve home path with
  | error fault =>
    rw [removeDirectory_of_error hresolve]
    by_cases hfault : fault = .notFound
    · subst hfault
      exact Or.inr (Or.inl ⟨rfl, rfl⟩)
    · exact Or.inr (Or.inr ⟨fault, hfault, rfl⟩)
  | ok location =>
    obtain rfl := eq_locate_of_resolve hresolve
    cases hdirectory : tree.isDirectory (locate home path) with
    | false =>
      rw [removeDirectory_of_file hresolve hdirectory]
      exact Or.inr (Or.inr ⟨.notADirectory, nofun, rfl⟩)
    | true =>
      rw [removeDirectory, hresolve]
      simp only [hdirectory, Bool.not_true, Bool.false_eq_true, if_false]
      split
      · exact Or.inr (Or.inr ⟨.invalidArgument, nofun, rfl⟩)
      · exact Or.inr (Or.inr ⟨.invalidArgument, nofun, rfl⟩)
      · exact absurd ‹_› hlast
      · exact Or.inl ⟨⟨hresolve, isDirectory_eq_true.mp hdirectory⟩, rfl⟩

end FileTree

/-- Removing the table at the address of an accepted name cuts its place off if a directory is found
there, and does nothing at all if nothing is found. -/
theorem StorageMode.resetLocal_ensures_isCut {name root uri : String}
    (huri : localFiles.tableUri name root = .ok uri) (world : World) :
    (localFiles.resetLocal uri).Ensures world
      (fun removed after =>
        if removed then
          world.tree.FindsDirectory world.home uri ∧ after.home = world.home ∧
            after.journal = world.journal ++ [.tableRemoved uri] ∧
            IsCut (locate world.home uri) world.tree after.tree
        else world.tree.resolve world.home uri = .error .notFound ∧ after = world)
      fun failure _ => ∃ fault, failure = .fault (.files uri fault) := by
  have hne : locate world.home uri ≠ [] := locate_ne_nil_of_tableUri huri world.home
  unfold resetLocal
  rw [isLocal_localFiles, if_neg (by decide)]
  refine Run.ensures_bind (Run.ensures_tree (Run.ensures_bind (Run.ensures_home ?_)))
  rcases removeDirectory_cases world.tree world.home
      (StorageMode.getLast?_fullNames_ne_up huri) with
    ⟨hfinds, heq⟩ | ⟨hresolve, heq⟩ | ⟨fault, hfault, heq⟩
  · rw [heq]
    exact Run.ensures_bind (Run.ensures_setTree (Run.ensures_bind (Run.ensures_record
      (Run.ensures_pure ⟨hfinds, rfl, rfl, isCut_remove _ hne⟩))))
  · rw [heq]
    exact Run.ensures_bind (Run.ensures_setTree (Run.ensures_pure ⟨hresolve, rfl⟩))
  · generalize world.tree.removeDirectory world.home uri = removed at heq
    obtain ⟨outcome, tree⟩ := removed
    subst heq
    refine Run.ensures_bind (Run.ensures_setTree ?_)
    cases fault with
    | notFound => exact absurd rfl hfault
    | _ => exact Run.ensures_throw ⟨_, rfl⟩

/-- A directory that is found at the address of an accepted name without slashes is removed. -/
theorem StorageMode.start_resetLocal_of_findsDirectory {name root uri : String}
    (huri : localFiles.tableUri name root = .ok uri) (hslash : '/' ∉ (trimSlashes name).toList)
    {world : World} (h : world.tree.FindsDirectory world.home uri) :
    ((localFiles.resetLocal uri).start world).1 = .ok true := by
  obtain ⟨hlast, hplain⟩ := getLast?_fullNames huri hslash
  unfold resetLocal
  rw [isLocal_localFiles, if_neg (by decide)]
  simp only [Run.start_bind, Run.start_tree, Run.start_home, Run.start_setTree, Run.start_record,
    Run.start_pure, removeDirectory_of_plain h hlast hplain]

/-- Removing the table at the address of an accepted name without slashes cuts its place off, or
leaves the files as they are. -/
theorem StorageMode.resetLocal_ensures_isCut_or_eq {name root uri : String}
    (huri : localFiles.tableUri name root = .ok uri) (hslash : '/' ∉ (trimSlashes name).toList)
    (world : World) :
    (localFiles.resetLocal uri).Ensures world
      (fun _ after => after.home = world.home ∧
        (IsCut (locate world.home uri) world.tree after.tree ∨ after.tree = world.tree))
      fun _ after => after.home = world.home ∧ after.tree = world.tree := by
  obtain ⟨hlast, hplain⟩ := StorageMode.getLast?_fullNames huri hslash
  have hne : locate world.home uri ≠ [] := locate_ne_nil_of_tableUri huri world.home
  unfold resetLocal
  rw [isLocal_localFiles, if_neg (by decide)]
  refine Run.ensures_bind (Run.ensures_tree (Run.ensures_bind (Run.ensures_home ?_)))
  cases hresolve : world.tree.resolve world.home uri with
  | error fault =>
    rw [removeDirectory_of_error hresolve]
    refine Run.ensures_bind (Run.ensures_setTree ?_)
    cases fault
    case notFound => exact Run.ensures_pure ⟨rfl, Or.inr rfl⟩
    all_goals exact Run.ensures_throw ⟨rfl, rfl⟩
  | ok location =>
    obtain rfl := eq_locate_of_resolve hresolve
    cases hdirectory : world.tree.isDirectory (locate world.home uri) with
    | false =>
      rw [removeDirectory_of_file hresolve hdirectory]
      exact Run.ensures_bind (Run.ensures_setTree (Run.ensures_throw ⟨rfl, rfl⟩))
    | true =>
      rw [removeDirectory_of_plain ⟨hresolve, isDirectory_eq_true.mp hdirectory⟩ hlast hplain]
      exact Run.ensures_bind (Run.ensures_setTree (Run.ensures_bind (Run.ensures_record
        (Run.ensures_pure ⟨rfl, Or.inl (isCut_remove world.tree hne)⟩))))

/-- A removal leaves what is left of the directory, and puts the outcome into words. -/
theorem StorageMode.start_resetLocal (path : String) (world : World) :
    (localFiles.resetLocal path).start world =
      match world.tree.removeDirectory world.home path with
      | (.ok (), tree) =>
        (.ok true, { world with tree, journal := world.journal ++ [.tableRemoved path] })
      | (.error .notFound, tree) => (.ok false, { world with tree })
      | (.error fault, tree) => (.error (.fault (.files path fault)), { world with tree }) := by
  unfold resetLocal
  rw [isLocal_localFiles, if_neg (by decide)]
  simp only [Run.start_bind, Run.start_tree, Run.start_home]
  cases world.tree.removeDirectory world.home path with
  | mk outcome tree =>
    cases outcome with
    | ok done => rfl
    | error fault => cases fault <;> rfl

/-- A removal through a path that leads nowhere does nothing, and fails unless nothing is found. -/
theorem StorageMode.start_resetLocal_of_error {path : String} {world : World} {fault : PathFault}
    (h : world.tree.resolve world.home path = .error fault) :
    (localFiles.resetLocal path).start world =
      (if fault = .notFound then .ok false else .error (.fault (.files path fault)), world) := by
  rw [start_resetLocal, removeDirectory_of_error h]
  cases fault <;> rfl

end LogTable
