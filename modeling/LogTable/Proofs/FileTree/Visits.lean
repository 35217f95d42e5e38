import LogTable.Proofs.FileTree.Directories
import LogTable.Proofs.FileTree.View

/-!
# What a walk looks at

A walk along names looks at the locations that it visits (`FileTree.Visits`) and at nothing else.
Two trees in which the same stands there are walked alike (`walk_congr`), and directories are made
and removed alike in both (`createDirectories_congr`, `removeDirectory_congr`): with the same
outcome, and so that where the trees agree, they still do (`FileTree.ChangedAlike`).  From the top,
where all is made that is missing, it is enough that files bar the same locations
(`makeDirectories_congr_of_files`).
-/

namespace LogTable.FileTree

variable {α : Type} {first second tree : FileTree α} {top here l : Location}
  {name : String} {names : List String}

/-- The walk along names from `top` visits a location, at its start or behind some of the names. -/
def Visits (top : Location) (names : List String) (l : Location) : Prop :=
  ∃ front, front <+: names ∧ l = follow top front

theorem visits_start : Visits top names top :=
  ⟨[], List.nil_prefix, rfl⟩

theorem visits_follow : Visits top names (follow top names) :=
  ⟨names, List.prefix_refl _, rfl⟩

theorem visits_locate (home : Location) (path : String) :
    Visits (pathStart home path) (pathSteps path) (locate home path) :=
  visits_follow

theorem visits_cons_iff :
    Visits top (name :: names) l ↔ l = top ∨ Visits (enter top name) names l := by
  constructor
  · rintro ⟨front, hfront, rfl⟩
    cases front with
    | nil => exact .inl rfl
    | cons first front =>
      obtain ⟨rfl, hrest⟩ := List.cons_prefix_cons.mp hfront
      exact .inr ⟨front, hrest, rfl⟩
  · rintro (rfl | ⟨front, hfront, rfl⟩)
    · exact visits_start
    · exact ⟨name :: front, List.cons_prefix_cons.mpr ⟨rfl, hfront⟩, rfl⟩

theorem Visits.cons (h : Visits (enter top name) names l) : Visits top (name :: names) l :=
  visits_cons_iff.mpr (.inr h)

/-- A longer walk visits more. -/
theorem Visits.of_prefix {front : List String} (h : Visits top front l) (hfront : front <+: names) :
    Visits top names l := by
  obtain ⟨start, hstart, rfl⟩ := h
  exact ⟨start, hstart.trans hfront, rfl⟩

/-- A walk visits what it passes. -/
theorem Passes.visits (h : Passes top names l) : Visits top names l := by
  obtain ⟨front, name, rest, rfl, hup, rfl⟩ := h
  refine ⟨front ++ [name], ⟨rest, by simp⟩, ?_⟩
  rw [follow_append, follow_cons, follow_nil, enter_of_ne hup]

/-- A walk along some names and one more visits what these visit and where the last one leads. -/
theorem visits_append_singleton {last : String} :
    Visits top (names ++ [last]) l ↔ Visits top names l ∨ l = follow top (names ++ [last]) := by
  constructor
  · rintro ⟨front, hfront, rfl⟩
    rcases List.prefix_concat_iff.mp hfront with rfl | hfront
    · exact .inr rfl
    · exact .inl ⟨front, hfront, rfl⟩
  · rintro (hl | rfl)
    · exact hl.of_prefix (List.prefix_append _ _)
    · exact visits_follow

/-- What a walk visits leads to its start, or is passed. -/
theorem Visits.prefix_or_passes (h : Visits top names l) : l <+: top ∨ Passes top names l := by
  induction names generalizing top with
  | nil =>
    obtain ⟨front, hfront, rfl⟩ := h
    obtain rfl : front = [] := List.prefix_nil.mp hfront
    exact .inl (List.prefix_refl top)
  | cons name names ih =>
    rcases visits_cons_iff.mp h with rfl | hrest
    · exact .inl (List.prefix_refl l)
    · rcases ih hrest with habove | hpasses
      · by_cases hup : name = ".."
        · rw [enter, if_pos hup] at habove
          exact .inl (habove.trans (List.dropLast_prefix top))
        · rw [enter_of_ne hup] at habove
          rcases List.prefix_concat_iff.mp habove with rfl | habove
          · exact .inr (passes_head hup)
          · exact .inl habove
      · exact .inr hpasses.cons

/-! ### Finding -/

/-- The names that count among those of a path. -/
theorem steps_cons_of_stay (hstay : name = "" ∨ name = ".") :
    (((name :: names).filter (· ≠ "")).filter (· ≠ ".")) =
      (names.filter (· ≠ "")).filter (· ≠ ".") := by
  rcases hstay with rfl | rfl <;> simp

theorem steps_cons (hstay : ¬ (name = "" ∨ name = ".")) :
    (((name :: names).filter (· ≠ "")).filter (· ≠ ".")) =
      name :: (names.filter (· ≠ "")).filter (· ≠ ".") := by
  rw [not_or] at hstay
  simp [hstay.1, hstay.2]

/-- Trees in which the same stands where a walk comes by are walked alike. -/
theorem walk_congr (h : ∀ l, Visits here ((names.filter (· ≠ "")).filter (· ≠ ".")) l →
    first.find? l = second.find? l) : first.walk here names = second.walk here names := by
  induction names generalizing here with
  | nil => rw [walk, walk, h here visits_start]
  | cons name names ih =>
    rw [walk, walk, h here visits_start]
    cases second.find? here with
    | none => rfl
    | some entry =>
      cases entry with
      | file content => rfl
      | directory =>
        simp only
        split_ifs with hstay hup hfits
        · rw [steps_cons_of_stay hstay] at h
          exact ih h
        · subst hup
          rw [steps_cons (by decide)] at h
          exact ih fun l hl => h l (.cons (by simpa [enter] using hl))
        · rfl
        · rw [steps_cons hstay] at h
          exact ih fun l hl => h l (.cons (by rwa [enter_of_ne hup]))

theorem resolve_congr {home : Location} {path : String}
    (h : ∀ l, Visits (pathStart home path) (pathSteps path) l → first.find? l = second.find? l) :
    first.resolve home path = second.resolve home path := by
  unfold resolve
  split_ifs
  · rfl
  · rfl
  · rfl
  · exact walk_congr h

/-- A walk to a directory visits directories only. -/
theorem find?_of_visits_of_walk {last : Location} (hwalk : tree.walk here names = .ok last)
    (hlast : tree.find? last = some .directory)
    (hl : Visits here ((names.filter (· ≠ "")).filter (· ≠ ".")) l) :
    tree.find? l = some .directory := by
  induction names generalizing here with
  | nil =>
    obtain ⟨front, hfront, rfl⟩ := hl
    obtain rfl : front = [] := List.prefix_nil.mp hfront
    have hstop := eq_follow_of_walk hwalk
    exact hstop ▸ hlast
  | cons name names ih =>
    rw [walk] at hwalk
    cases hfind : tree.find? here with
    | none => simp [hfind] at hwalk
    | some entry =>
      cases entry with
      | file content => simp [hfind] at hwalk
      | directory =>
        simp only [hfind] at hwalk
        split_ifs at hwalk with hstay hup hfits
        · rw [steps_cons_of_stay hstay] at hl
          exact ih hwalk hl
        · subst hup
          rw [steps_cons (by decide), visits_cons_iff] at hl
          rcases hl with rfl | hl
          · exact hfind
          · exact ih hwalk (by simpa [enter] using hl)
        · rw [steps_cons hstay, visits_cons_iff] at hl
          rcases hl with rfl | hl
          · exact hfind
          · exact ih hwalk (by rwa [enter_of_ne hup] at hl)

/-- A walk that succeeds visits directories only, but for where it ends. -/
theorem find?_of_visits_front_of_walk {stop : Location} {front : List String} {last : String}
    (hwalk : tree.walk here names = .ok stop)
    (hsteps : (names.filter (· ≠ "")).filter (· ≠ ".") = front ++ [last])
    (hl : Visits here front l) : tree.find? l = some .directory := by
  induction names generalizing here front with
  | nil => simp at hsteps
  | cons name names ih =>
    rw [walk] at hwalk
    cases hfind : tree.find? here with
    | none => simp [hfind] at hwalk
    | some entry =>
      cases entry with
      | file content => simp [hfind] at hwalk
      | directory =>
        simp only [hfind] at hwalk
        by_cases hstay : name = "" ∨ name = "."
        · rw [if_pos hstay] at hwalk
          rw [steps_cons_of_stay hstay] at hsteps
          exact ih hwalk hsteps hl
        · rw [if_neg hstay] at hwalk
          rw [steps_cons hstay] at hsteps
          cases front with
          | nil =>
            obtain ⟨front, hfront, rfl⟩ := hl
            obtain rfl : front = [] := List.prefix_nil.mp hfront
            exact hfind
          | cons next front =>
            obtain ⟨rfl, hrest⟩ := List.cons.inj hsteps
            rcases visits_cons_iff.mp hl with rfl | hl
            · exact hfind
            · rw [enter] at hl
              split_ifs at hwalk hl with hup hfits
              · exact ih hwalk hrest hl
              · exact ih hwalk hrest hl

/-- Whoever finds a directory at a path comes by directories only. -/
theorem find?_of_visits {home last : Location} {path : String}
    (hresolve : tree.resolve home path = .ok last) (hlast : tree.find? last = some .directory)
    (hl : Visits (pathStart home path) (pathSteps path) l) : tree.find? l = some .directory := by
  unfold resolve at hresolve
  split_ifs at hresolve
  exact find?_of_visits_of_walk hresolve hlast hl

/-- Unless something is missing, a walk comes out the same as long as what it comes by is kept. -/
theorem walk_eq_of_kept {later : FileTree α} (hfound : tree.walk here names ≠ .error .notFound)
    (hkept : ∀ l, Visits here ((names.filter (· ≠ "")).filter (· ≠ ".")) l →
      ∀ e, tree.find? l = some e → later.find? l = some e) :
    later.walk here names = tree.walk here names := by
  induction names generalizing here with
  | nil =>
    cases hhere : tree.find? here with
    | none => simp [walk, hhere] at hfound
    | some e => rw [walk, walk, hhere, hkept here visits_start e hhere]
  | cons name names ih =>
    cases hhere : tree.find? here with
    | none => simp [walk, hhere] at hfound
    | some e =>
      rw [walk, hhere] at hfound
      rw [walk, walk, hhere, hkept here visits_start e hhere]
      cases e with
      | file content => rfl
      | directory =>
        simp only at hfound ⊢
        split_ifs at hfound ⊢ with hstay hup hfits
        · rw [steps_cons_of_stay hstay] at hkept
          exact ih hfound hkept
        · subst hup
          rw [steps_cons (by decide)] at hkept
          exact ih hfound fun l hl => hkept l (.cons (by simpa [enter] using hl))
        · rfl
        · rw [steps_cons hstay] at hkept
          exact ih hfound fun l hl => hkept l (.cons (by rwa [enter_of_ne hup]))

/-- Unless something is missing, a path is resolved the same as long as what it leads by is kept. -/
theorem resolve_eq_of_kept {home : Location} {path : String} {later : FileTree α}
    (hfound : tree.resolve home path ≠ .error .notFound)
    (hkept : ∀ l, Visits (pathStart home path) (pathSteps path) l →
      ∀ e, tree.find? l = some e → later.find? l = some e) :
    later.resolve home path = tree.resolve home path := by
  unfold resolve at hfound ⊢
  split_ifs at hfound ⊢
  · rfl
  · rfl
  · rfl
  · exact walk_eq_of_kept hfound hkept

/-- A walk that finds nothing comes by a location where nothing stands. -/
theorem exists_visits_of_walk_eq_notFound (h : tree.walk here names = .error .notFound) :
    ∃ l, Visits here ((names.filter (· ≠ "")).filter (· ≠ ".")) l ∧ tree.find? l = none := by
  induction names generalizing here with
  | nil =>
    rw [walk] at h
    split_ifs at h with hhere
    exact ⟨here, visits_start, Option.not_isSome_iff_eq_none.mp hhere⟩
  | cons name names ih =>
    rw [walk] at h
    cases hhere : tree.find? here with
    | none => exact ⟨here, visits_start, hhere⟩
    | some e =>
      cases e with
      | file content => simp [hhere] at h
      | directory =>
        simp only [hhere] at h
        split_ifs at h with hstay hup hfits
        · rw [steps_cons_of_stay hstay]
          exact ih h
        · subst hup
          obtain ⟨l, hl, hnone⟩ := ih h
          rw [steps_cons (by decide)]
          exact ⟨l, .cons (by simpa [enter] using hl), hnone⟩
        · cases h
        · obtain ⟨l, hl, hnone⟩ := ih h
          rw [steps_cons hstay]
          exact ⟨l, .cons (by rwa [enter_of_ne hup]), hnone⟩

/-- If nothing is found at a path, it is empty or leads by a location where nothing stands. -/
theorem exists_visits_of_resolve_eq_notFound {home : Location} {path : String} (hne : path ≠ "")
    (h : tree.resolve home path = .error .notFound) :
    ∃ l, Visits (pathStart home path) (pathSteps path) l ∧ tree.find? l = none := by
  unfold resolve at h
  split_ifs at h
  · contradiction
  · cases h
  · exact exists_visits_of_walk_eq_notFound h

/-- If nothing is found at a path that is not empty, any tree resolves it by a walk. -/
theorem resolve_eq_walk_of_notFound {home : Location} {path : String} (hne : path ≠ "")
    (hnone : tree.resolve home path = .error .notFound) (other : FileTree α) :
    other.resolve home path = other.walk (pathStart home path) (pathNames path) := by
  unfold resolve at hnone ⊢
  split_ifs at hnone ⊢
  · contradiction
  · cases hnone
  · rfl

/-! ### Changes that are alike -/

/-- The two trees have been changed alike: at each location the same stands in both afterwards, or
both are there as before. -/
def ChangedAlike (first second after after' : FileTree α) : Prop :=
  ∀ l, after.find? l = after'.find? l ∨
    after.find? l = first.find? l ∧ after'.find? l = second.find? l

namespace ChangedAlike

variable {middle middle' after after' : FileTree α}

protected theorem refl (first second : FileTree α) : ChangedAlike first second first second :=
  fun _ => .inr ⟨rfl, rfl⟩

protected theorem trans (h : ChangedAlike first second middle middle')
    (h' : ChangedAlike middle middle' after after') : ChangedAlike first second after after' := by
  intro l
  rcases h' l with heq | ⟨hl, hl'⟩
  · exact .inl heq
  · rw [hl, hl']
    exact h l

/-- Where the trees agree, they still do. -/
theorem find?_eq (h : ChangedAlike first second after after')
    (hl : first.find? l = second.find? l) : after.find? l = after'.find? l := by
  rcases h l with heq | ⟨hfirst, hsecond⟩
  · exact heq
  · rw [hfirst, hl, hsecond]

/-- The same entry put into both trees. -/
theorem put (first second : FileTree α) (hne : l ≠ []) (entry : Entry α) :
    ChangedAlike first second (first.put l entry) (second.put l entry) := by
  intro other
  rw [find?_put _ _ _ hne, find?_put _ _ _ hne]
  by_cases hother : other = l
  · exact .inl (by rw [if_pos hother, if_pos hother])
  · exact .inr ⟨if_neg hother, if_neg hother⟩

/-- The same directory is emptied in both trees. -/
theorem removeBelow (first second : FileTree α) (top : Location) :
    ChangedAlike first second (first.removeBelow top) (second.removeBelow top) := by
  intro l
  rw [find?_removeBelow, find?_removeBelow]
  by_cases hl : isBelow top l = true
  · exact .inl (by rw [if_pos hl, if_pos hl])
  · exact .inr ⟨if_neg hl, if_neg hl⟩

/-- The same directory is removed from both trees. -/
theorem remove (first second : FileTree α) (hne : top ≠ []) :
    ChangedAlike first second (first.remove top) (second.remove top) := by
  intro l
  rw [find?_remove _ _ hne, find?_remove _ _ hne]
  by_cases hl : top.isPrefixOf l = true
  · exact .inl (by rw [if_pos hl, if_pos hl])
  · exact .inr ⟨if_neg hl, if_neg hl⟩

end ChangedAlike

/-- Once the directories of a way could be made, all that it visits are directories. -/
theorem find?_of_visits_of_makeDirectories {last : Location}
    (hok : (tree.makeDirectories top names).1 = .ok last)
    (htop : ∀ l, l <+: top → tree.find? l = some .directory) (hl : Visits top names l) :
    (tree.makeDirectories top names).2.find? l = some .directory := by
  rcases hl.prefix_or_passes with habove | hpasses
  · exact (makeDirectories_addsDirectories tree top names).kept (htop l habove)
  · exact find?_of_passes hok hpasses

/-- If the directories of a way can be made, so can those of its front. -/
theorem makeDirectories_of_append {front rest : List String} {last : Location}
    (hok : (tree.makeDirectories top (front ++ rest)).1 = .ok last) :
    ∃ middle, (tree.makeDirectories top front).1 = .ok middle := by
  induction front generalizing tree top with
  | nil => exact ⟨top, rfl⟩
  | cons name front ih =>
    rw [List.cons_append] at hok
    simp only [makeDirectories] at hok ⊢
    split_ifs at hok ⊢
    · exact ih hok
    · split at hok
      · exact ih hok
      · cases hok
      · exact ih hok
    · split at hok
      · exact ih hok
      · cases hok
      · cases hok

/-- The directories of a way are made alike in trees in which the same stands on the way. -/
theorem makeDirectories_congr (h : ∀ l, Visits top names l → first.find? l = second.find? l) :
    (first.makeDirectories top names).1 = (second.makeDirectories top names).1 ∧
      ChangedAlike first second (first.makeDirectories top names).2
        (second.makeDirectories top names).2 := by
  induction names generalizing first second top with
  | nil => exact ⟨rfl, .refl _ _⟩
  | cons name names ih =>
    by_cases hup : name = ".."
    · subst hup
      simp only [makeDirectories, if_pos]
      exact ih fun l hl => h l (.cons (by simpa [enter] using hl))
    · have hrest : ∀ l, Visits (top ++ [name]) names l → Visits top (name :: names) l :=
        fun l hl => .cons (by rwa [enter_of_ne hup])
      have hnext := h _ (hrest _ visits_start)
      have hdirectory : first.isDirectory top = second.isDirectory top := by
        rw [isDirectory, h top visits_start, isDirectory]
      simp only [makeDirectories, if_neg hup, hnext, hdirectory]
      split_ifs
      · exact ⟨rfl, .refl _ _⟩
      · split
        · exact ih fun l hl => h l (hrest l hl)
        · exact ⟨rfl, .refl _ _⟩
        · have hput : ChangedAlike first second (first.put (top ++ [name]) .directory)
              (second.put (top ++ [name]) .directory) := .put _ _ (by simp) _
          obtain ⟨houtcome, hafter⟩ := ih fun l hl => hput.find?_eq (h l (hrest l hl))
          exact ⟨houtcome, hput.trans hafter⟩
      · split
        · exact ih fun l hl => h l (hrest l hl)
        · exact ⟨rfl, .refl _ _⟩
        · exact ⟨rfl, .refl _ _⟩

/-- The directories of a path are made alike in trees in which the same stands on its way. -/
theorem createDirectories_congr {home : Location} {path : String}
    (h : ∀ l, Visits (pathStart home path) (pathSteps path) l → first.find? l = second.find? l) :
    (first.createDirectories home path).1 = (second.createDirectories home path).1 ∧
      ChangedAlike first second (first.createDirectories home path).2
        (second.createDirectories home path).2 := by
  unfold createDirectories
  rw [resolve_congr h]
  cases hresolve : second.resolve home path with
  | ok location =>
    obtain rfl := eq_locate_of_resolve hresolve
    have hdirectory : first.isDirectory (locate home path) =
        second.isDirectory (locate home path) := by
      rw [isDirectory, h _ (visits_locate home path), isDirectory]
    simp only [hdirectory]
    exact ⟨trivial, .refl _ _⟩
  | error fault =>
    cases fault with
    | notFound =>
      have hsteps : ((fullNames path).filter (· ≠ ".")).dropLast <+: pathSteps path :=
        List.dropLast_prefix _
      simp only
      split_ifs
      · exact ⟨rfl, (makeDirectories_congr fun l hl => h l (hl.of_prefix hsteps)).2⟩
      · exact makeDirectories_congr h
    | _ => exact ⟨rfl, .refl _ _⟩

/-- The directory of a path that does not end in two dots, and is not the top, is removed alike in
trees in which the same stands on its way. -/
theorem removeDirectory_congr {home : Location} {path : String}
    (hlast : (fullNames path).getLast? ≠ some "..") (hne : locate home path ≠ [])
    (h : ∀ l, Visits (pathStart home path) (pathSteps path) l → first.find? l = second.find? l) :
    (first.removeDirectory home path).1 = (second.removeDirectory home path).1 ∧
      ChangedAlike first second (first.removeDirectory home path).2
        (second.removeDirectory home path).2 := by
  unfold removeDirectory
  rw [resolve_congr h]
  cases hresolve : second.resolve home path with
  | error fault => exact ⟨rfl, .refl _ _⟩
  | ok location =>
    obtain rfl := eq_locate_of_resolve hresolve
    have hdirectory : first.isDirectory (locate home path) =
        second.isDirectory (locate home path) := by
      rw [isDirectory, h _ (visits_locate home path), isDirectory]
    have hemptied := ChangedAlike.removeBelow first second (locate home path)
    simp only [hdirectory]
    split_ifs
    · exact ⟨rfl, .refl _ _⟩
    · split
      · exact ⟨rfl, hemptied⟩
      · exact ⟨rfl, hemptied⟩
      · exact absurd ‹_› hlast
      · exact ⟨rfl, hemptied.trans (.remove _ _ hne)⟩

/-! ### Ways from the top -/

/-- The two trees have files at the same locations among those with `P`. -/
def SameFiles (P : Location → Prop) (first second : FileTree α) : Prop :=
  ∀ l, P l → ((∃ content, first.find? l = some (.file content)) ↔
    ∃ content, second.find? l = some (.file content))

/-- Files stand at the same locations as long as both trees are changed alike. -/
theorem SameFiles.of_changedAlike {P : Location → Prop} {after after' : FileTree α}
    (h : SameFiles P first second) (hchange : ChangedAlike first second after after') :
    SameFiles P after after' := by
  intro l hl
  rcases hchange l with heq | ⟨hfirst, hsecond⟩
  · rw [heq]
  · rw [hfirst, hsecond]
    exact h l hl

/-- Adding directories makes no difference for files. -/
theorem SameFiles.of_addsDirectories {P Q : Location → Prop} {after : FileTree α}
    (h : SameFiles P first second) (hadds : AddsDirectories first after Q) :
    SameFiles P after second := by
  intro l hl
  rw [← h l hl]
  constructor
  · rintro ⟨content, hafter⟩
    cases hfirst : first.find? l with
    | none => cases (hadds.added hfirst hafter).1
    | some entry =>
      obtain rfl := Option.some.inj ((hadds.kept hfirst).symm.trans hafter)
      exact ⟨content, rfl⟩
  · rintro ⟨content, hfirst⟩
    exact ⟨content, hadds.kept hfirst⟩

/-- Where no file is in the way, the first directory of a way is entered, and made if it is
missing. -/
theorem exists_makeDirectories_cons (hup : name ≠ "..") (hfits : fits name = true)
    (htop : tree.find? top = some .directory)
    (hfile : ¬ ∃ content, tree.find? (top ++ [name]) = some (.file content)) :
    ∃ middle : FileTree α, middle.find? (top ++ [name]) = some .directory ∧
      (∀ l, l ≠ top ++ [name] → middle.find? l = tree.find? l) ∧
      tree.makeDirectories top (name :: names) = middle.makeDirectories (top ++ [name]) names := by
  simp only [makeDirectories, if_neg hup, hfits, Bool.not_true, Bool.false_eq_true, if_false]
  cases hnext : tree.find? (top ++ [name]) with
  | none =>
    refine ⟨tree.put (top ++ [name]) .directory, ?_, fun l hl => ?_, ?_⟩
    · rw [find?_put _ _ _ (by simp), if_pos rfl]
    · rw [find?_put _ _ _ (by simp), if_neg hl]
    · simp only [isDirectory_eq_true.mpr htop, if_true]
  | some entry =>
    cases entry with
    | file content => exact absurd ⟨content, hnext⟩ hfile
    | directory => exact ⟨tree, hnext, fun _ _ => rfl, rfl⟩

/-- From a location that is reached through directories, the directories of a way are made alike in
trees in which files bar the same locations. -/
theorem makeDirectories_congr_of_files (hfiles : SameFiles (Passes top names) first second)
    (htop : ∀ l, l <+: top → first.find? l = some .directory ∧ second.find? l = some .directory) :
    (first.makeDirectories top names).1 = (second.makeDirectories top names).1 ∧
      ChangedAlike first second (first.makeDirectories top names).2
        (second.makeDirectories top names).2 := by
  induction names generalizing first second top with
  | nil => exact ⟨rfl, .refl _ _⟩
  | cons name names ih =>
    by_cases hup : name = ".."
    · subst hup
      simp only [makeDirectories, if_pos]
      exact ih (fun l hl => hfiles l (.cons (by simpa [enter] using hl)))
        fun l hl => htop l (hl.trans (List.dropLast_prefix top))
    · by_cases hfits : fits name = true
      · by_cases hfile : ∃ content, first.find? (top ++ [name]) = some (.file content)
        · obtain ⟨content, hfirst⟩ := hfile
          obtain ⟨content', hsecond⟩ := (hfiles _ (passes_head hup)).mp ⟨content, hfirst⟩
          simp only [makeDirectories, if_neg hup, hfits, hfirst, hsecond, Bool.not_true,
            Bool.false_eq_true, if_false]
          exact ⟨trivial, .refl _ _⟩
        · have hfile' := fun h => hfile ((hfiles _ (passes_head hup)).mpr h)
          have htop' := htop top (List.prefix_refl _)
          obtain ⟨entered, hentered, hothers, heq⟩ :=
            exists_makeDirectories_cons hup hfits htop'.1 hfile
          obtain ⟨entered', hentered', hothers', heq'⟩ :=
            exists_makeDirectories_cons hup hfits htop'.2 hfile'
          have hentering : ChangedAlike first second entered entered' := by
            intro l
            by_cases hnext : l = top ++ [name]
            · exact .inl (by rw [hnext, hentered, hentered'])
            · exact .inr ⟨hothers l hnext, hothers' l hnext⟩
          have hrest : SameFiles (Passes (top ++ [name]) names) entered entered' := by
            intro l hl
            by_cases hnext : l = top ++ [name]
            · rw [hnext, hentered, hentered']
            · rw [hothers l hnext, hothers' l hnext]
              exact hfiles l (.cons (by rwa [enter_of_ne hup]))
          have hreached : ∀ l, l <+: top ++ [name] →
              entered.find? l = some .directory ∧ entered'.find? l = some .directory := by
            intro l hl
            by_cases hnext : l = top ++ [name]
            · exact hnext ▸ ⟨hentered, hentered'⟩
            · rw [hothers l hnext, hothers' l hnext]
              exact htop l ((List.prefix_concat_iff.mp hl).resolve_left hnext)
          obtain ⟨houtcome, hafter⟩ := ih hrest hreached
          rw [heq, heq']
          exact ⟨houtcome, hentering.trans hafter⟩
      · rw [Bool.not_eq_true] at hfits
        simp only [makeDirectories, if_neg hup, hfits, Bool.not_false, if_true]
        exact ⟨trivial, .refl _ _⟩

end LogTable.FileTree
