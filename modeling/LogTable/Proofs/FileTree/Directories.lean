import LogTable.Proofs.FileTree.Location
import Mathlib.Data.List.Induction

/-!
# Making directories

`AddsDirectories before after P` says that a tree has kept all its entries and gained directories
only, at locations with `P`.  Making the directories of a path adds directories on its way
(`Passes`), whether it succeeds or not.  A tree is closed if everything stands in a directory
(`IsClosed`); in a closed tree a path whose directories have been made is found again.
-/

namespace LogTable.FileTree

variable {α : Type} {before middle after tree : FileTree α}

@[simp] theorem isDirectory_eq_true {l : Location} :
    tree.isDirectory l = true ↔ tree.find? l = some .directory := by
  unfold isDirectory
  cases tree.find? l with
  | none => simp
  | some entry => cases entry <;> simp [Entry.isDirectory]

/-- Directories are there after a put that does not replace one. -/
theorem find?_put_of_directory {l other : Location} {entry : Entry α}
    (hl : tree.isDirectory l = false) (hother : tree.find? other = some .directory) :
    (tree.put l entry).find? other = some .directory := by
  have hne : l ≠ [] := fun h => by simp [h, isDirectory, Entry.isDirectory] at hl
  rw [find?_put _ _ _ hne, if_neg fun heq => ?_, hother]
  rw [← heq, isDirectory_eq_true.mpr hother] at hl
  cases hl

/-- The walk along names from `top` enters a location by one of the names. -/
def Passes (top : Location) (names : List String) (l : Location) : Prop :=
  ∃ first name rest, names = first ++ name :: rest ∧ name ≠ ".." ∧ l = follow top first ++ [name]

/-- What a walk passes after its first name. -/
theorem Passes.cons {top l : Location} {name : String} {names : List String}
    (h : Passes (enter top name) names l) : Passes top (name :: names) l := by
  obtain ⟨first, next, rest, rfl, hup, rfl⟩ := h
  exact ⟨name :: first, next, rest, rfl, hup, rfl⟩

/-- The location that the first name of a walk leads to. -/
theorem passes_head {top : Location} {name : String} {names : List String} (h : name ≠ "..") :
    Passes top (name :: names) (top ++ [name]) :=
  ⟨[], name, names, rfl, h, rfl⟩

/-- A walk of some names and one more passes what these names pass and the location of the last. -/
theorem passes_append_singleton {top l : Location} {names : List String} {last : String}
    (h : Passes top (names ++ [last]) l) : Passes top names l ∨ l = follow top names ++ [last] := by
  obtain ⟨first, name, rest, heq, hup, rfl⟩ := h
  rcases List.eq_nil_or_concat rest with rfl | ⟨rest', last', rfl⟩
  · obtain ⟨rfl, hlast⟩ := List.append_inj' heq rfl
    cases hlast
    exact Or.inr rfl
  · rw [List.concat_eq_append, ← List.cons_append, ← List.append_assoc] at heq
    obtain ⟨rfl, -⟩ := List.append_inj' heq rfl
    exact Or.inl ⟨first, name, rest', rfl, hup, rfl⟩

/-- `after` has all entries of `before`, and its further entries are directories at locations with
`P`. -/
structure AddsDirectories (before after : FileTree α) (P : Location → Prop) : Prop where
  kept : ∀ {l e}, before.find? l = some e → after.find? l = some e
  added : ∀ {l e}, before.find? l = none → after.find? l = some e → e = .directory ∧ P l

namespace AddsDirectories

variable {P Q : Location → Prop}

protected theorem refl (tree : FileTree α) (P : Location → Prop) : AddsDirectories tree tree P where
  kept h := h
  added hnone hsome := by simp [hnone] at hsome

protected theorem trans (h : AddsDirectories before middle P)
    (h' : AddsDirectories middle after P) : AddsDirectories before after P where
  kept hl := h'.kept (h.kept hl)
  added {l e} hnone hsome := by
    cases hmiddle : middle.find? l with
    | none => exact h'.added hmiddle hsome
    | some entry =>
      obtain rfl : entry = e := Option.some.inj ((h'.kept hmiddle).symm.trans hsome)
      exact h.added hnone hmiddle

/-- Nothing comes into being where directories are not added. -/
theorem find?_eq (h : AddsDirectories before after P) {l : Location} (hl : ¬ P l) :
    after.find? l = before.find? l := by
  cases hbefore : before.find? l with
  | some e => exact h.kept hbefore
  | none =>
    by_contra hne
    obtain ⟨e, he⟩ := Option.ne_none_iff_exists'.mp hne
    exact hl (h.added hbefore he).2

theorem mono (h : AddsDirectories before after P) (hPQ : ∀ l, P l → Q l) :
    AddsDirectories before after Q where
  kept hl := h.kept hl
  added hnone hsome := ⟨(h.added hnone hsome).1, hPQ _ (h.added hnone hsome).2⟩

/-- A directory put where nothing stands. -/
theorem put {l : Location} (hnone : tree.find? l = none) (hP : P l) :
    AddsDirectories tree (tree.put l .directory) P := by
  have hl : l ≠ [] := fun h => by simp [h] at hnone
  constructor
  · intro other e hsome
    rw [find?_put _ _ _ hl, if_neg fun h => by simp [h, hnone] at hsome, hsome]
  · intro other e hother hsome
    rw [find?_put _ _ _ hl] at hsome
    split_ifs at hsome with heq
    · cases hsome
      exact ⟨rfl, heq ▸ hP⟩
    · simp [hother] at hsome

/-- The same entry put into both trees. -/
theorem put_both {l : Location} (h : AddsDirectories before after P) (hne : l ≠ [])
    (entry : Entry α) : AddsDirectories (before.put l entry) (after.put l entry) P := by
  constructor
  · intro other e hother
    rw [find?_put _ _ _ hne] at hother ⊢
    split_ifs at hother ⊢
    · exact hother
    · exact h.kept hother
  · intro other e hother hother'
    rw [find?_put _ _ _ hne] at hother hother'
    split_ifs at hother hother'
    exact h.added hother hother'

/-- A directory put where the later tree has one. -/
theorem put_left {l : Location} (h : AddsDirectories before after P) (hne : l ≠ [])
    (hl : after.find? l = some .directory) :
    AddsDirectories (before.put l .directory) after P := by
  constructor
  · intro other e hother
    rw [find?_put _ _ _ hne] at hother
    split_ifs at hother with heq
    · rw [heq, hl, ← hother]
    · exact h.kept hother
  · intro other e hother hother'
    rw [find?_put _ _ _ hne] at hother
    split_ifs at hother
    exact h.added hother hother'

end AddsDirectories

/-- Making directories adds directories on the way, also if it fails. -/
theorem makeDirectories_addsDirectories (tree : FileTree α) (top : Location)
    (names : List String) :
    AddsDirectories tree (tree.makeDirectories top names).2 (Passes top names) := by
  fun_induction makeDirectories tree top names with
  | case1 tree top => exact .refl tree _
  | case2 tree top rest ih => exact ih.mono fun l hl => Passes.cons (by rwa [enter, if_pos rfl])
  | case3 tree => exact .refl tree _
  | case4 tree top name rest hup _ next _ ih =>
    exact ih.mono fun l hl => Passes.cons (by rwa [enter_of_ne hup])
  | case5 tree => exact .refl tree _
  | case6 tree top name rest hup _ next hnone _ ih =>
    have hput : AddsDirectories tree (tree.put next .directory) (Passes top (name :: rest)) :=
      .put hnone (passes_head hup)
    exact hput.trans (ih.mono fun l hl => Passes.cons (by rwa [enter_of_ne hup]))
  | case7 tree => exact .refl tree _

/-- The directories of a path are added on its way, also if not all of them can be. -/
theorem createDirectories_addsDirectories (tree : FileTree α) (home : Location) (path : String) :
    AddsDirectories tree (tree.createDirectories home path).2
      (Passes (pathStart home path) (pathSteps path)) := by
  unfold createDirectories
  cases tree.resolve home path with
  | ok location => exact .refl tree _
  | error fault =>
    cases fault with
    | notFound =>
      simp only
      split_ifs
      · refine (makeDirectories_addsDirectories tree _ _).mono ?_
        rintro l ⟨first, name, rest, heq, hup, rfl⟩
        change (pathSteps path).dropLast = _ at heq
        have hne : pathSteps path ≠ [] := fun h => by simp [h] at heq
        refine ⟨first, name, rest ++ [(pathSteps path).getLast hne], ?_, hup, rfl⟩
        rw [← List.cons_append, ← List.append_assoc, ← heq]
        exact (List.dropLast_append_getLast hne).symm
      · exact makeDirectories_addsDirectories tree _ _
    | _ => exact .refl tree _

/-- Directories that could be made once are found by any later tree that still has them. -/
theorem makeDirectories_of_ok {later : FileTree α} {top l : Location} {names : List String}
    (h : (tree.makeDirectories top names).1 = .ok l)
    (hlater : ∀ l', (tree.makeDirectories top names).2.find? l' = some .directory →
      later.find? l' = some .directory) :
    later.makeDirectories top names = (.ok l, later) := by
  fun_induction makeDirectories tree top names with
  | case1 tree top =>
    cases h
    rfl
  | case2 tree top rest ih =>
    rw [makeDirectories, if_pos rfl]
    exact ih h hlater
  | case3 => cases h
  | case4 tree top name rest hup hfits next hfind ih =>
    have hkept := hlater next ((makeDirectories_addsDirectories tree next rest).kept hfind)
    rw [makeDirectories, if_neg hup, if_neg hfits]
    simp only [next] at hkept ⊢
    rw [hkept]
    exact ih h hlater
  | case5 => cases h
  | case6 tree top name rest hup hfits next hnone htop ih =>
    have hnext : next ≠ [] := by simp [next]
    have hkept := hlater next ((makeDirectories_addsDirectories _ next rest).kept
      (by rw [find?_put _ _ _ hnext, if_pos rfl]))
    rw [makeDirectories, if_neg hup, if_neg hfits]
    simp only [next] at hkept ⊢
    rw [hkept]
    exact ih h hlater
  | case7 => cases h

/-- Making directories enters a directory by the first name, which is there or comes into being. -/
theorem exists_of_makeDirectories_cons {top l : Location} {name : String} {rest : List String}
    (hup : name ≠ "..") (h : (tree.makeDirectories top (name :: rest)).1 = .ok l) :
    fits name = true ∧ ∃ middle : FileTree α, middle.find? (top ++ [name]) = some .directory ∧
      tree.makeDirectories top (name :: rest) = middle.makeDirectories (top ++ [name]) rest := by
  rw [makeDirectories, if_neg hup] at h ⊢
  cases hfits : fits name with
  | false => simp [hfits] at h
  | true =>
    simp only [hfits, Bool.not_true, Bool.false_eq_true, if_false] at h ⊢
    refine ⟨trivial, ?_⟩
    cases hfind : tree.find? (top ++ [name]) with
    | some entry =>
      cases entry with
      | directory => exact ⟨tree, hfind, rfl⟩
      | file content => simp [hfind] at h
    | none =>
      simp only [hfind] at h ⊢
      split_ifs at h ⊢
      exact ⟨tree.put (top ++ [name]) .directory, by simp [find?_put], rfl⟩

/-- Directories that could be made can be made as well if some directories are there already, and
these make no other difference afterwards. -/
theorem makeDirectories_of_addsDirectories {later : FileTree α} {P : Location → Prop}
    {top l : Location} {names : List String} (hok : (tree.makeDirectories top names).1 = .ok l)
    (hlater : AddsDirectories tree later P) :
    (later.makeDirectories top names).1 = .ok l ∧
      AddsDirectories (tree.makeDirectories top names).2 (later.makeDirectories top names).2 P := by
  revert later
  fun_induction makeDirectories tree top names with
  | case1 tree top => exact fun hlater => ⟨hok, hlater⟩
  | case2 tree top rest ih =>
    intro later hlater
    rw [makeDirectories, if_pos rfl]
    exact ih hok hlater
  | case3 => cases hok
  | case4 tree top name rest hup hfits next hfind ih =>
    intro later hlater
    rw [makeDirectories, if_neg hup, if_neg hfits]
    simp only [next] at hfind ih ⊢
    rw [hlater.kept hfind]
    exact ih hok hlater
  | case5 => cases hok
  | case6 tree top name rest hup hfits next hnone htop ih =>
    intro later hlater
    rw [makeDirectories, if_neg hup, if_neg hfits]
    simp only [next] at hnone ih ⊢
    have hnext : top ++ [name] ≠ [] := by simp
    cases hfind : later.find? (top ++ [name]) with
    | none =>
      have htop' : later.isDirectory top = true :=
        isDirectory_eq_true.mpr (hlater.kept (isDirectory_eq_true.mp htop))
      simp only [if_pos htop']
      exact ih hok (hlater.put_both hnext _)
    | some entry =>
      obtain ⟨rfl, -⟩ := hlater.added hnone hfind
      exact ih hok (hlater.put_left hnext hfind)
  | case7 => cases hok

/-- All that a walk passes are directories once these could be made. -/
theorem find?_of_passes {top l l' : Location} {names : List String}
    (hok : (tree.makeDirectories top names).1 = .ok l) (hl' : Passes top names l') :
    (tree.makeDirectories top names).2.find? l' = some .directory := by
  obtain ⟨first, name, rest, rfl, hup, rfl⟩ := hl'
  induction first generalizing tree top with
  | nil =>
    obtain ⟨-, middle, hmiddle, heq⟩ := exists_of_makeDirectories_cons hup hok
    rw [List.nil_append, heq]
    exact (makeDirectories_addsDirectories middle _ _).kept hmiddle
  | cons next first ih =>
    by_cases hnext : next = ".."
    · rw [List.cons_append, makeDirectories, if_pos hnext] at hok ⊢
      rw [follow_cons, enter, if_pos hnext]
      exact ih hok
    · rw [List.cons_append] at hok ⊢
      obtain ⟨-, middle, -, heq⟩ := exists_of_makeDirectories_cons hnext hok
      rw [heq] at hok ⊢
      rw [follow_cons, enter_of_ne hnext]
      exact ih hok

/-! ### Closed trees -/

/-- Everything in the tree stands in a directory. -/
def IsClosed (tree : FileTree α) : Prop :=
  ∀ l name e, tree.find? (l ++ [name]) = some e → tree.find? l = some .directory

/-- All that leads to a directory of a closed tree are directories. -/
theorem IsClosed.of_prefix (h : tree.IsClosed) {l top : Location} (hl : l <+: top)
    (htop : tree.find? top = some .directory) : tree.find? l = some .directory := by
  obtain ⟨rest, rfl⟩ := hl
  induction rest using List.reverseRecOn with
  | nil => simpa using htop
  | append_singleton rest name ih =>
    rw [← List.append_assoc] at htop
    exact ih (h _ _ _ htop)

/-- What stands above a directory of a closed tree is a directory. -/
theorem IsClosed.dropLast (h : tree.IsClosed) {l : Location}
    (hl : tree.find? l = some .directory) : tree.find? l.dropLast = some .directory :=
  h.of_prefix (List.dropLast_prefix l) hl

/-- A tree stays closed if an entry is put into a directory, but not in place of a directory. -/
theorem IsClosed.put (h : tree.IsClosed) {l : Location} {name : String} {entry : Entry α}
    (hl : tree.find? l = some .directory) (hnot : tree.find? (l ++ [name]) ≠ some .directory) :
    (tree.put (l ++ [name]) entry).IsClosed := by
  intro l' name' e he
  rw [find?_put _ _ _ (by simp)] at he ⊢
  have hdirectory : tree.find? l' = some .directory := by
    split_ifs at he with heq
    · obtain ⟨rfl, -⟩ := List.append_inj' heq rfl
      exact hl
    · exact h _ _ _ he
  have hne : l' ≠ l ++ [name] := fun heq => hnot (by rw [← heq, hdirectory])
  rw [if_neg hne, hdirectory]

theorem IsClosed.makeDirectories (h : tree.IsClosed) (top : Location) (names : List String) :
    (tree.makeDirectories top names).2.IsClosed := by
  fun_induction FileTree.makeDirectories tree top names with
  | case2 tree top rest ih => exact ih h
  | case4 tree top name rest _ _ next _ ih => exact ih h
  | case6 tree top name rest _ _ next hnone htop ih =>
    exact ih (h.put (isDirectory_eq_true.mp htop) (by simp only [next] at hnone; simp [hnone]))
  | _ => exact h

theorem IsClosed.createDirectories (h : tree.IsClosed) (home : Location) (path : String) :
    (tree.createDirectories home path).2.IsClosed := by
  unfold FileTree.createDirectories
  cases tree.resolve home path with
  | ok location => exact h
  | error fault =>
    cases fault with
    | notFound =>
      simp only
      split_ifs <;> exact h.makeDirectories _ _
    | _ => exact h

/-- A walk to a directory succeeds in any later tree that still has all directories. -/
theorem walk_of_kept {later : FileTree α} {here l : Location} {names : List String}
    (h : tree.walk here names = .ok l) (hl : tree.find? l = some .directory)
    (hlater : ∀ l', tree.find? l' = some .directory → later.find? l' = some .directory) :
    later.walk here names = .ok l := by
  induction names generalizing here with
  | nil =>
    rw [walk] at h ⊢
    split_ifs at h
    cases h
    simp [hlater _ hl]
  | cons name names ih =>
    rw [walk] at h ⊢
    cases hfind : tree.find? here with
    | none => simp [hfind] at h
    | some entry =>
      cases entry with
      | file content => simp [hfind] at h
      | directory =>
        rw [hlater here hfind]
        simp only [hfind] at h ⊢
        split_ifs at h ⊢ <;> exact ih h

/-- A walk from a location that is reached through directories finds the directories that have been
made for it. -/
theorem walk_of_makeDirectories_of_reached {later : FileTree α} {top l : Location}
    {names : List String}
    (h : (tree.makeDirectories top ((names.filter (· ≠ "")).filter (· ≠ "."))).1 = .ok l)
    (hlater : ∀ l', (tree.makeDirectories top
      ((names.filter (· ≠ "")).filter (· ≠ "."))).2.find? l' = some .directory →
        later.find? l' = some .directory)
    (htop : ∀ l', l' <+: top → later.find? l' = some .directory) :
    later.walk top names = .ok l := by
  have hfound := htop top (List.prefix_refl top)
  induction names generalizing tree top with
  | nil =>
    cases h
    simp [walk, hfound]
  | cons name names ih =>
    rw [walk, hfound]
    simp only
    split_ifs with hstay hup hfits
    · have hfilter : ((name :: names).filter (· ≠ "")).filter (· ≠ ".") =
          (names.filter (· ≠ "")).filter (· ≠ ".") := by
        rcases hstay with rfl | rfl <;> simp
      rw [hfilter] at h hlater
      exact ih h hlater htop hfound
    · subst hup
      simp only [List.filter_cons] at h hlater
      have htop' : ∀ l', l' <+: top.dropLast → later.find? l' = some .directory :=
        fun l' hl' => htop l' (hl'.trans (List.dropLast_prefix top))
      exact ih (by simpa [makeDirectories] using h) (by simpa [makeDirectories] using hlater)
        htop' (htop' _ (List.prefix_refl _))
    all_goals
      rw [not_or] at hstay
      have hfilter : ((name :: names).filter (· ≠ "")).filter (· ≠ ".") =
          name :: (names.filter (· ≠ "")).filter (· ≠ ".") := by
        simp [hstay.1, hstay.2]
      rw [hfilter] at h hlater
      obtain ⟨hfits', middle, hmiddle, heq⟩ := exists_of_makeDirectories_cons hup h
    · simp [hfits'] at hfits
    · rw [heq] at h hlater
      have hnext := hlater _ ((makeDirectories_addsDirectories middle _ _).kept hmiddle)
      refine ih h hlater ?_ hnext
      intro l' hl'
      rcases List.prefix_concat_iff.mp hl' with rfl | hprefix
      · exact hnext
      · exact htop l' hprefix

/-- In a closed tree that has the directories of a path, the path is found. -/
theorem walk_of_makeDirectories {later : FileTree α} {top l : Location} {names : List String}
    (h : (tree.makeDirectories top ((names.filter (· ≠ "")).filter (· ≠ "."))).1 = .ok l)
    (hlater : ∀ l', (tree.makeDirectories top
      ((names.filter (· ≠ "")).filter (· ≠ "."))).2.find? l' = some .directory →
        later.find? l' = some .directory)
    (hclosed : later.IsClosed) (htop : later.find? top = some .directory) :
    later.walk top names = .ok l :=
  walk_of_makeDirectories_of_reached h hlater fun _ hl' => hclosed.of_prefix hl' htop

/-- Directories that could be made end in a directory. -/
theorem find?_of_makeDirectories {top l : Location} {names : List String}
    (h : (tree.makeDirectories top names).1 = .ok l) (hclosed : tree.IsClosed)
    (htop : tree.find? top = some .directory) :
    (tree.makeDirectories top names).2.find? l = some .directory := by
  fun_induction FileTree.makeDirectories tree top names with
  | case1 tree top =>
    cases h
    exact htop
  | case2 tree top rest ih => exact ih h hclosed (hclosed.dropLast htop)
  | case3 => cases h
  | case4 tree top name rest _ _ next hfind ih => exact ih h hclosed hfind
  | case5 => cases h
  | case6 tree top name rest _ _ next hnone _ ih =>
    have hput : (tree.put next .directory).find? next = some .directory := by
      rw [find?_put _ _ _ (by simp [next]), if_pos rfl]
    exact ih h (hclosed.put htop (by simp only [next] at hnone; simp [hnone])) hput
  | case7 => cases h

/-- A path whose directories could be made leads to a directory of the tree that is left, and is
found there unless it is empty. -/
theorem resolve_of_createDirectories {home l : Location} {path : String}
    (h : (tree.createDirectories home path).1 = .ok l) (hclosed : tree.IsClosed)
    (hhome : tree.find? home = some .directory) :
    (tree.createDirectories home path).2.find? l = some .directory ∧
      (path ≠ "" → (tree.createDirectories home path).2.resolve home path = .ok l) := by
  have hstart : tree.find? (pathStart home path) = some .directory := by
    unfold pathStart
    split_ifs
    · simp
    · exact hhome
  unfold FileTree.createDirectories at h ⊢
  cases hresolve : tree.resolve home path with
  | ok location =>
    simp only [hresolve] at h ⊢
    split_ifs at h with hdirectory
    cases h
    exact ⟨isDirectory_eq_true.mp hdirectory, fun _ => rfl⟩
  | error fault =>
    cases fault with
    | notFound =>
      simp only [hresolve] at h ⊢
      split_ifs at h ⊢ with hdot
      refine ⟨find?_of_makeDirectories h hclosed hstart, fun hne => ?_⟩
      unfold resolve at hresolve ⊢
      rw [if_neg hne] at hresolve ⊢
      split_ifs at hresolve ⊢
      · cases hresolve
      · cases hresolve
      · exact walk_of_makeDirectories h (fun _ hl => hl) (hclosed.makeDirectories _ _)
          ((makeDirectories_addsDirectories tree _ _).kept hstart)
    | _ => simp [hresolve] at h

/-- A directory that is found at a path is found in any later tree that still has all directories.
-/
theorem resolve_of_kept {later : FileTree α} {home l : Location} {path : String}
    (h : tree.resolve home path = .ok l) (hl : tree.find? l = some .directory)
    (hlater : ∀ l', tree.find? l' = some .directory → later.find? l' = some .directory) :
    later.resolve home path = .ok l := by
  unfold resolve at h ⊢
  split_ifs at h ⊢
  exact walk_of_kept h hl hlater

end LogTable.FileTree
