import LogTable.FileTree.Path
import Mathlib.Data.List.Basic
import Mathlib.Tactic.SplitIfs

/-!
# Locations that paths name

There are no links, so a path names one location, whatever stands there: `FileTree.locate` follows
its names (`FileTree.follow`), where two dots go up and any other name goes down.  Whoever finds
something at a path finds it at this location (`eq_locate_of_resolve`), and whoever makes the
directories of a path ends there (`eq_locate_of_createDirectories`).
-/

namespace LogTable.FileTree

variable {α : Type}

theorem isBelow_eq_true {top l : Location} : isBelow top l = true ↔ top <+: l ∧ l ≠ top := by
  simp [isBelow, List.isPrefixOf_iff_prefix]

/-- Where a name leads from a location: two dots go up. -/
def enter (here : Location) (name : String) : Location :=
  if name = ".." then here.dropLast else here ++ [name]

/-- Where names lead from a location. -/
def follow (here : Location) (names : List String) : Location :=
  names.foldl enter here

/-- The names of a path that lead somewhere: all but the empty ones and the single dots. -/
def pathSteps (path : String) : List String :=
  (fullNames path).filter (· ≠ ".")

/-- The location that a path names. -/
def locate (home : Location) (path : String) : Location :=
  follow (pathStart home path) (pathSteps path)

@[simp] theorem follow_nil (here : Location) : follow here [] = here := rfl

@[simp] theorem follow_cons (here : Location) (name : String) (names : List String) :
    follow here (name :: names) = follow (enter here name) names := rfl

theorem follow_append (here : Location) (first second : List String) :
    follow here (first ++ second) = follow (follow here first) second :=
  List.foldl_append

theorem enter_of_ne {name : String} (h : name ≠ "..") (here : Location) :
    enter here name = here ++ [name] :=
  if_neg h

/-- Names without two dots are appended. -/
theorem follow_eq_append {names : List String} (h : ".." ∉ names) (here : Location) :
    follow here names = here ++ names := by
  induction names generalizing here with
  | nil => simp
  | cons name names ih =>
    rw [List.mem_cons, not_or] at h
    rw [follow_cons, ih h.2, enter_of_ne (Ne.symm h.1), List.append_assoc, List.singleton_append]

/-- A name that leads somewhere is not empty and no single dot. -/
theorem ne_of_mem_pathSteps {path name : String} (h : name ∈ pathSteps path) :
    name ≠ "" ∧ name ≠ "." := by
  simp only [pathSteps, fullNames, List.mem_filter, decide_eq_true_eq] at h
  exact ⟨h.1.2, h.2⟩

/-- A walk that succeeds ends where its names lead. -/
theorem eq_follow_of_walk {tree : FileTree α} {here l : Location} {names : List String}
    (h : tree.walk here names = .ok l) :
    l = follow here ((names.filter (· ≠ "")).filter (· ≠ ".")) := by
  induction names generalizing here with
  | nil =>
    rw [walk] at h
    split_ifs at h
    cases h
    rfl
  | cons name names ih =>
    rw [walk] at h
    cases hfind : tree.find? here with
    | none => simp [hfind] at h
    | some entry =>
      cases entry with
      | file content => simp [hfind] at h
      | directory =>
        simp only [hfind] at h
        split_ifs at h with hstay hup hfits
        · rcases hstay with rfl | rfl <;> simpa using ih h
        · subst hup
          simpa [enter] using ih h
        · rw [not_or] at hstay
          simpa [hstay.1, hstay.2, enter, hup] using ih h

/-- A walk that succeeds ends where something stands. -/
theorem isSome_find?_of_walk {tree : FileTree α} {here l : Location} {names : List String}
    (h : tree.walk here names = .ok l) : (tree.find? l).isSome = true := by
  induction names generalizing here with
  | nil =>
    rw [walk] at h
    split_ifs at h with hsome
    cases h
    exact hsome
  | cons name names ih =>
    rw [walk] at h
    split at h
    · cases h
    · cases h
    · split_ifs at h <;> exact ih h

/-- A walk that succeeds in a tree also does so in one with fewer entries, or it finds nothing
there. -/
theorem walk_eq_ok_or_notFound {tree more : FileTree α} {here l : Location} {names : List String}
    (hmore : ∀ l e, tree.find? l = some e → more.find? l = some e)
    (h : more.walk here names = .ok l) :
    tree.walk here names = .ok l ∨ tree.walk here names = .error .notFound := by
  induction names generalizing here with
  | nil =>
    rw [walk] at h ⊢
    split_ifs at h ⊢
    · exact Or.inl h
    · exact Or.inr rfl
  | cons name names ih =>
    rw [walk] at h ⊢
    cases hfind : tree.find? here with
    | none => exact Or.inr rfl
    | some entry =>
      rw [hmore here entry hfind] at h
      cases entry with
      | file content => cases h
      | directory =>
        simp only at h ⊢
        split_ifs at h ⊢ <;> exact ih h

/-- What stands at a path stands at the location that it names. -/
theorem eq_locate_of_resolve {tree : FileTree α} {home l : Location} {path : String}
    (h : tree.resolve home path = .ok l) : l = locate home path := by
  unfold resolve at h
  split_ifs at h
  exact eq_follow_of_walk h

/-- Something stands at the location of a path that is found. -/
theorem isSome_find?_of_resolve {tree : FileTree α} {home l : Location} {path : String}
    (h : tree.resolve home path = .ok l) : (tree.find? l).isSome = true := by
  unfold resolve at h
  split_ifs at h
  exact isSome_find?_of_walk h

/-- A path that is found in a tree is also found in one with fewer entries, or nothing is found
there. -/
theorem resolve_eq_ok_or_notFound {tree more : FileTree α} {home l : Location} {path : String}
    (hmore : ∀ l e, tree.find? l = some e → more.find? l = some e)
    (h : more.resolve home path = .ok l) :
    tree.resolve home path = .ok l ∨ tree.resolve home path = .error .notFound := by
  unfold resolve at h ⊢
  split_ifs at h ⊢
  exact walk_eq_ok_or_notFound hmore h

/-- If nothing is found at a path that does not end in a dot, its directories are made. -/
theorem createDirectories_of_notFound {tree : FileTree α} {home : Location}
    {path : String} (hresolve : tree.resolve home path = .error .notFound)
    (hlast : (fullNames path).getLast? ≠ some ".") :
    tree.createDirectories home path =
      tree.makeDirectories (pathStart home path) (pathSteps path) := by
  rw [createDirectories, hresolve]
  simp only [if_neg hlast]
  rfl

/-- Directories that could be made end where their names lead. -/
theorem eq_follow_of_makeDirectories {tree : FileTree α} {top l : Location} {names : List String}
    (h : (tree.makeDirectories top names).1 = .ok l) : l = follow top names := by
  fun_induction makeDirectories tree top names with
  | case1 =>
    cases h
    rfl
  | case2 tree top rest ih => simpa [enter] using ih h
  | case3 => cases h
  | case4 tree top name rest hup _ next _ ih => simpa [enter, hup] using ih h
  | case5 => cases h
  | case6 tree top name rest hup _ next _ _ ih => simpa [enter, hup] using ih h
  | case7 => cases h

/-- Directories that could be made have names that fit. -/
theorem fits_of_makeDirectories {tree : FileTree α} {top l : Location} {names : List String}
    (h : (tree.makeDirectories top names).1 = .ok l) {name : String} (hname : name ∈ names)
    (hup : name ≠ "..") : fits name = true := by
  fun_induction makeDirectories tree top names with
  | case1 => cases hname
  | case2 tree top rest ih => exact ih h ((List.mem_cons.mp hname).resolve_left hup)
  | case3 => cases h
  | case4 tree top first rest _ hfits next _ ih =>
    rcases List.mem_cons.mp hname with rfl | hrest
    · simpa using hfits
    · exact ih h hrest
  | case5 => cases h
  | case6 tree top first rest _ hfits next _ _ ih =>
    rcases List.mem_cons.mp hname with rfl | hrest
    · simpa using hfits
    · exact ih h hrest
  | case7 => cases h

/-- The directories of a path end at the location that it names. -/
theorem eq_locate_of_createDirectories {tree : FileTree α} {home l : Location} {path : String}
    (h : (tree.createDirectories home path).1 = .ok l) : l = locate home path := by
  unfold createDirectories at h
  cases hresolve : tree.resolve home path with
  | ok location =>
    simp only [hresolve] at h
    split_ifs at h
    cases h
    exact eq_locate_of_resolve hresolve
  | error fault =>
    cases fault with
    | notFound =>
      simp only [hresolve] at h
      split_ifs at h
      exact eq_follow_of_makeDirectories h
    | _ => simp [hresolve] at h

end LogTable.FileTree
