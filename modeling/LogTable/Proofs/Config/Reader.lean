import LogTable.Config.Reader
import LogTable.FileTree
import Mathlib.Algebra.Group.Int.Defs
import Mathlib.Algebra.Group.Nat.Defs
import Mathlib.Data.List.Basic
import Mathlib.Tactic.SplitIfs

/-!
# Documents that are read

What every document that is read from a text has: each key only once, and whole numbers of 64 bits.
Both hold of the assignments one by one, by induction on the assignments that are read; the keys
that have been read before are the invariant.
-/

namespace LogTable.Document

variable {document : Document}

/-! ### Items -/

/-- A whole number that is read has 64 bits. -/
theorem lt_of_integer?_eq_some {cs rest : List Char} {n : Int}
    (h : integer? cs = some (n, rest)) : n < 2 ^ 63 := by
  have hrange : ∀ found : Int × List Char,
      (if Int64.minValue.toInt ≤ found.1 ∧ found.1 ≤ Int64.maxValue.toInt then some found
        else none) = some (n, rest) → n < 2 ^ 63 := by
    intro found hfound
    split_ifs at hfound with hin
    obtain rfl := Option.some.inj hfound
    exact Int.lt_add_one_of_le hin.2
  unfold integer? at h
  split at h <;>
  · obtain ⟨found, -, hfound⟩ := Option.bind_eq_some_iff.mp h
    exact hrange found hfound

/-- A number among the items that are read is a whole number with 64 bits. -/
theorem lt_of_item?_eq_some {depth : Nat} {cs rest : List Char} {n : Int}
    (h : item? depth cs = some (.integer n, rest)) : n < 2 ^ 63 := by
  cases depth with
  | zero => cases h
  | succ depth =>
    unfold item? at h
    split at h
    · obtain ⟨⟨items, _⟩, -, hlist⟩ := Option.map_eq_some_iff.mp h
      cases hlist
    · split at h
      · cases h
      · split at h
        · cases h
        · cases h
        · obtain ⟨⟨m, _⟩, hinteger, hm⟩ := Option.map_eq_some_iff.mp h
          cases hm
          exact lt_of_integer?_eq_some hinteger

/-- The number in an assignment has 64 bits. -/
theorem lt_of_assignment?_eq_some {cs rest : List Char} {key : String} {n : Int}
    (h : assignment? cs = some ((key, .integer n), rest)) : n < 2 ^ 63 := by
  unfold assignment? at h
  obtain ⟨⟨key, after⟩, -, h⟩ := Option.bind_eq_some_iff.mp h
  dsimp only at h
  split at h
  · obtain ⟨⟨item, after⟩, hitem, h⟩ := Option.bind_eq_some_iff.mp h
    obtain ⟨_, -, h⟩ := Option.bind_eq_some_iff.mp h
    cases h
    exact lt_of_item?_eq_some hitem
  · cases h

/-! ### Documents -/

/-- Assignments that are read have different keys, none of which has been read before, and their
numbers have 64 bits. -/
theorem of_assignments?_eq_some {fuel : Nat} {seen : List String} {cs : List Char}
    (h : assignments? fuel seen cs = some document) :
    (document.map Prod.fst).Nodup ∧ (∀ key ∈ document.map Prod.fst, key ∉ seen) ∧
      ∀ key n, (key, Item.integer n) ∈ document → n < 2 ^ 63 := by
  induction fuel generalizing seen cs document with
  | zero => cases h
  | succ fuel ih =>
    unfold assignments? at h
    obtain ⟨front, -, h⟩ := Option.bind_eq_some_iff.mp h
    split at h
    · cases h
      simp
    · obtain ⟨⟨⟨key, item⟩, rest⟩, hentry, h⟩ := Option.bind_eq_some_iff.mp h
      dsimp only at h
      split_ifs at h with hseen
      obtain ⟨entries, hentries, h⟩ := Option.bind_eq_some_iff.mp h
      cases h
      obtain ⟨hnodup, hnew, hnumbers⟩ := ih hentries
      refine ⟨?_, ?_, ?_⟩
      · exact List.nodup_cons.mpr ⟨fun hkey => hnew key hkey List.mem_cons_self, hnodup⟩
      · intro other hother
        rcases List.mem_cons.mp hother with rfl | hother
        · exact hseen
        · exact fun hmem => hnew other hother (List.mem_cons_of_mem _ hmem)
      · intro other n hmem
        rcases List.mem_cons.mp hmem with hfirst | hmem
        · cases hfirst
          exact lt_of_assignment?_eq_some hentry
        · exact hnumbers other n hmem

/-- A document that is read has each key once. -/
theorem nodup_of_ofText? {s : String} (h : ofText? s = some document) :
    (document.map Prod.fst).Nodup :=
  (of_assignments?_eq_some h).1

/-- A number behind a key of a document that is read has 64 bits. -/
theorem lt_of_ofText? {s key : String} {n : Int} (h : ofText? s = some document)
    (hlookup : document.lookup key = some (.integer n)) : n < 2 ^ 63 :=
  (of_assignments?_eq_some h).2.2 key n
    ((FileTree.lookup_eq_some_iff (nodup_of_ofText? h)).mp hlookup)

end LogTable.Document
