import LogTable.Proofs.FileTree.Directories

/-!
# Ways that are free

Directories can be made below a directory exactly if all of their names fit and no file is in the
way (`FileTree.IsFree`, `exists_makeDirectories_eq_ok_iff`).
-/

namespace LogTable.FileTree

variable {α : Type} {before after tree : FileTree α} {top : Location} {names : List String}

/-- All of the names fit, and no file stands on the way along them from `top`. -/
def IsFree (tree : FileTree α) (top : Location) (names : List String) : Prop :=
  (∀ name ∈ names, fits name = true) ∧
    ∀ path, path <+: names → ∀ content, tree.find? (top ++ path) ≠ some (.file content)

/-- A way is free if it is so up to its first name and from there on. -/
theorem isFree_cons {name : String} :
    tree.IsFree top (name :: names) ↔ fits name = true ∧
      (∀ content, tree.find? top ≠ some (.file content)) ∧ tree.IsFree (top ++ [name]) names := by
  constructor
  · rintro ⟨hfits, hfree⟩
    have htop : ∀ content, tree.find? top ≠ some (.file content) := by
      simpa using hfree [] List.nil_prefix
    refine ⟨hfits name List.mem_cons_self, htop,
      fun other hother => hfits other (List.mem_cons_of_mem _ hother), fun path hpath => ?_⟩
    have hcons := hfree (name :: path) (List.cons_prefix_cons.mpr ⟨rfl, hpath⟩)
    rwa [List.append_assoc]
  · rintro ⟨hname, htop, hfits, hfree⟩
    refine ⟨List.forall_mem_cons.mpr ⟨hname, hfits⟩, fun path hpath => ?_⟩
    cases path with
    | nil => simpa using htop
    | cons first path =>
      obtain ⟨rfl, hpath'⟩ := List.cons_prefix_cons.mp hpath
      have hrest := hfree path hpath'
      rwa [List.append_assoc] at hrest

/-- A way is free in any tree that has no files on it but those that are on it anyway. -/
theorem IsFree.of_file {before after : FileTree α} (h : before.IsFree top names)
    (hfile : ∀ path, path <+: names → ∀ content, after.find? (top ++ path) = some (.file content) →
      ∃ content', before.find? (top ++ path) = some (.file content')) : after.IsFree top names := by
  refine ⟨h.1, fun path hpath content hcontent => ?_⟩
  obtain ⟨content', hcontent'⟩ := hfile path hpath content hcontent
  exact h.2 path hpath content' hcontent'

/-- Directories can be made below a directory exactly if their way is free. -/
theorem exists_makeDirectories_eq_ok_iff (htop : tree.find? top = some .directory)
    (hup : ".." ∉ names) :
    (∃ l, (tree.makeDirectories top names).1 = .ok l) ↔ tree.IsFree top names := by
  induction names generalizing tree top with
  | nil =>
    have hfree : tree.IsFree top [] := by
      refine ⟨by simp, fun path hpath content => ?_⟩
      rw [List.prefix_nil.mp hpath, List.append_nil, htop]
      simp
    exact iff_of_true ⟨top, rfl⟩ hfree
  | cons name names ih =>
    rw [List.mem_cons, not_or] at hup
    have htop' : ∀ content, tree.find? top ≠ some (.file content) := by
      simp [htop]
    rw [isFree_cons, makeDirectories, if_neg (Ne.symm hup.1)]
    cases hfits : fits name with
    | false => simp
    | true =>
      simp only [Bool.not_true, Bool.false_eq_true, if_false, true_and]
      rw [and_iff_right htop']
      cases hfind : tree.find? (top ++ [name]) with
      | none =>
        -- the directory that comes into being is in nobody's way
        have hput : ∀ path content,
            (tree.put (top ++ [name]) .directory).find? (top ++ [name] ++ path) =
              some (.file content) ↔
            tree.find? (top ++ [name] ++ path) = some (.file content) := by
          intro path content
          rw [find?_put _ _ _ (by simp)]
          split_ifs with heq
          · simp [heq, hfind]
          · exact Iff.rfl
        have hnext : (tree.put (top ++ [name]) .directory).find? (top ++ [name]) =
            some .directory := by
          rw [find?_put _ _ _ (by simp), if_pos rfl]
        simp only [isDirectory_eq_true.mpr htop, if_true]
        rw [ih hnext hup.2, IsFree, IsFree]
        simp only [ne_eq, hput]
      | some entry =>
        cases entry with
        | directory => exact ih hfind hup.2
        | file content =>
          refine iff_of_false (by simp) fun hfree => ?_
          have hnone := hfree.2 [] List.nil_prefix content
          rw [List.append_nil] at hnone
          exact hnone hfind

/-- A walk without two dots passes what its names lead to one by one. -/
theorem exists_prefix_of_passes {l : Location} (hup : ".." ∉ names) (h : Passes top names l) :
    ∃ path, path <+: names ∧ l = top ++ path := by
  obtain ⟨first, name, rest, rfl, -, rfl⟩ := h
  have hfirst : ".." ∉ first := fun hmem => hup (List.mem_append_left _ hmem)
  refine ⟨first ++ [name], ⟨rest, by simp⟩, ?_⟩
  rw [follow_eq_append hfirst, List.append_assoc]

end LogTable.FileTree
