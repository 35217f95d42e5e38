import LogTable.FileTree.Path
import Mathlib.Tactic.SplitIfs

/-!
# Trees with the same view

Two trees have the same view if every look-up finds the same in both; the order of their entries may
differ (`FileTree.SameView`).  What is done to a tree or read off it depends on its view only.
-/

namespace LogTable.FileTree

variable {α : Type}

/-- Every look-up finds the same in both trees. -/
def SameView (first second : FileTree α) : Prop :=
  ∀ l, first.find? l = second.find? l

namespace SameView

variable {first second : FileTree α}

protected theorem symm (h : first.SameView second) : second.SameView first :=
  fun l => (h l).symm

theorem isDirectory_eq (h : first.SameView second) (l : Location) :
    first.isDirectory l = second.isDirectory l := by
  rw [isDirectory, h l, isDirectory]

theorem content?_eq (h : first.SameView second) (l : Location) :
    first.content? l = second.content? l := by
  rw [content?, h l, content?]

theorem put (h : first.SameView second) {l : Location} (hne : l ≠ []) (entry : Entry α) :
    (first.put l entry).SameView (second.put l entry) := by
  intro other
  rw [find?_put _ _ _ hne, find?_put _ _ _ hne, h other]

theorem walk_eq (h : first.SameView second) (here : Location) (names : List String) :
    first.walk here names = second.walk here names := by
  induction names generalizing here with
  | nil => rw [walk, walk, h here]
  | cons name names ih => rw [walk, walk, h here, ih, ih, ih]

theorem resolve_eq (h : first.SameView second) (home : Location) (path : String) :
    first.resolve home path = second.resolve home path := by
  rw [resolve, resolve, h.walk_eq]

/-- Making the same directories has the same outcome and leaves the same view. -/
theorem makeDirectories (h : first.SameView second) (top : Location) (names : List String) :
    (first.makeDirectories top names).1 = (second.makeDirectories top names).1 ∧
      (first.makeDirectories top names).2.SameView (second.makeDirectories top names).2 := by
  induction names generalizing first second top with
  | nil => exact ⟨rfl, h⟩
  | cons name names ih =>
    simp only [FileTree.makeDirectories, h (top ++ [name]), h.isDirectory_eq top]
    split_ifs
    · exact ih h _
    · exact ⟨rfl, h⟩
    · split
      · exact ih h _
      · exact ⟨rfl, h⟩
      · exact ih (h.put (by simp) _) _
    · split
      · exact ih h _
      · exact ⟨rfl, h⟩
      · exact ⟨rfl, h⟩

/-- Making the directories of the same path has the same outcome and leaves the same view. -/
theorem createDirectories (h : first.SameView second) (home : Location) (path : String) :
    (first.createDirectories home path).1 = (second.createDirectories home path).1 ∧
      (first.createDirectories home path).2.SameView (second.createDirectories home path).2 := by
  unfold FileTree.createDirectories
  rw [h.resolve_eq]
  split
  · rw [h.isDirectory_eq]
    exact ⟨rfl, h⟩
  · simp only
    split_ifs
    · exact ⟨rfl, (h.makeDirectories _ _).2⟩
    · exact h.makeDirectories _ _
  · exact ⟨rfl, h⟩

theorem removeBelow (h : first.SameView second) (top : Location) :
    (first.removeBelow top).SameView (second.removeBelow top) := by
  intro l
  rw [find?_removeBelow, find?_removeBelow, h l]

theorem remove (h : first.SameView second) (top : Location) :
    (first.remove top).SameView (second.remove top) := by
  intro l
  by_cases hl : l = []
  · rw [hl, find?_nil, find?_nil]
  · have hsame := h l
    rw [find?_of_ne_nil _ hl, find?_of_ne_nil _ hl] at hsame ⊢
    simp only [FileTree.remove, keep]
    rw [lookup_filter fun l => !top.isPrefixOf l, lookup_filter fun l => !top.isPrefixOf l, hsame]

/-- Removing the directory at the same path has the same outcome and leaves the same view. -/
theorem removeDirectory (h : first.SameView second) (home : Location) (path : String) :
    (first.removeDirectory home path).1 = (second.removeDirectory home path).1 ∧
      (first.removeDirectory home path).2.SameView (second.removeDirectory home path).2 := by
  unfold FileTree.removeDirectory
  rw [h.resolve_eq]
  split
  · exact ⟨rfl, h⟩
  · rename_i location _
    rw [h.isDirectory_eq]
    have hemptied := h.removeBelow location
    split_ifs
    · exact ⟨rfl, h⟩
    · simp only [hemptied.walk_eq]
      split
      · exact ⟨rfl, hemptied⟩
      · exact ⟨rfl, hemptied⟩
      · split
        · exact ⟨rfl, hemptied⟩
        · exact ⟨rfl, hemptied⟩
      · exact ⟨rfl, hemptied.remove location⟩

end SameView

end LogTable.FileTree
