import LogTable.Table.Delete
import Mathlib.Data.List.Perm.Basic
import Mathlib.Data.List.Nodup

/-!
# Groups of rows

Splitting rows into groups loses none and repeats none (`flatMap_groups_perm`), all rows of a group
have the values of the group, and all rows of a data file lie between its bounds
(`DataFile.isBetween_ofRows`).
-/

namespace LogTable

/-! ### Groups -/

theorem nodup_eraseDups {α : Type} [BEq α] [LawfulBEq α] (xs : List α) : xs.eraseDups.Nodup := by
  match xs with
  | [] => simp
  | x :: xs =>
    rw [List.eraseDups_cons, List.nodup_cons]
    exact ⟨by simp, nodup_eraseDups _⟩
termination_by xs.length
decreasing_by
  exact Nat.lt_succ_of_le (List.length_filter_le _ _)

/-- Splitting a list by keys loses and repeats nothing. -/
theorem flatMap_filter_perm {α κ : Type} [DecidableEq κ] (key : α → κ) {keys : List κ}
    (hnodup : keys.Nodup) {xs : List α} (hkeys : ∀ x ∈ xs, key x ∈ keys) :
    (keys.flatMap fun k => xs.filter fun x => key x = k).Perm xs := by
  induction keys generalizing xs with
  | nil => simp [List.eq_nil_iff_forall_not_mem.mpr fun x hx => by simpa using hkeys x hx]
  | cons k keys ih =>
    rw [List.nodup_cons] at hnodup
    have hrest : (keys.flatMap fun k' => xs.filter fun x => key x = k') =
        keys.flatMap fun k' =>
          (xs.filter fun x => !decide (key x = k)).filter fun x => key x = k' := by
      refine List.flatMap_congr fun k' hk' => ?_
      rw [List.filter_filter]
      refine List.filter_congr fun x _ => ?_
      by_cases hx : key x = k'
      · have hne : k' ≠ k := fun h => hnodup.1 (h ▸ hk')
        simp [hx, hne]
      · simp [hx]
    rw [List.flatMap_cons, hrest]
    refine ((ih hnodup.2 fun x hx => ?_).append_left _).trans (List.filter_append_perm _ _)
    rw [List.mem_filter] at hx
    simpa [show key x ≠ k by simpa using hx.2] using hkeys x hx.1

/-- Taking apart the lists with an item that passes a test, and keeping only their other items,
leaves all items that do not pass. -/
theorem filter_flatMap_perm {α β : Type} (f : α → List β) (test : β → Bool) (xs : List α) :
    ((xs.filter fun x => !(f x).any test).flatMap f ++
        (xs.filter fun x => (f x).any test).flatMap fun x => (f x).filter fun y => !test y).Perm
      ((xs.flatMap f).filter fun y => !test y) := by
  induction xs with
  | nil => simp
  | cons x xs ih =>
    rw [List.flatMap_cons, List.filter_append]
    cases hany : (f x).any test with
    | true =>
      simp only [List.filter_cons, hany, Bool.not_true, Bool.false_eq_true, if_false, if_true,
        List.flatMap_cons]
      exact (List.perm_append_comm_assoc _ _ _).trans (ih.append_left _)
    | false =>
      have hself : ((f x).filter fun y => !test y) = f x := by
        rw [List.filter_eq_self]
        intro y hy
        simpa using List.any_eq_false.mp hany y hy
      simp only [List.filter_cons, hany, Bool.not_false, Bool.false_eq_true, if_false, if_true,
        List.flatMap_cons, hself, List.append_assoc]
      exact ih.append_left _

/-- Items that come to nothing can be left out. -/
theorem flatMap_filter_of_forall {α β : Type} {f : α → List β} {test : α → Bool} {xs : List α}
    (h : ∀ x ∈ xs, test x = false → f x = []) : (xs.filter test).flatMap f = xs.flatMap f := by
  induction xs with
  | nil => rfl
  | cons x xs ih =>
    have hrest := ih fun x' hx' => h x' (List.mem_cons_of_mem _ hx')
    rw [List.filter_cons, List.flatMap_cons]
    cases htest : test x with
    | true => rw [if_pos rfl, List.flatMap_cons, hrest]
    | false => rw [if_neg Bool.false_ne_true, hrest, h x List.mem_cons_self htest, List.nil_append]

namespace Partition

/-- The rows of all groups are the rows that have been split. -/
theorem flatMap_groups_perm (columns : List Column) (rows : List Row) :
    ((groups columns rows).flatMap Prod.snd).Perm rows := by
  rw [groups, List.flatMap_map]
  exact flatMap_filter_perm _ (nodup_eraseDups _) fun row hrow =>
    List.mem_eraseDups.mpr (List.mem_map_of_mem hrow)

/-- The value of a partition column is the one that all rows of the group have. -/
theorem lookup_valuesOf {columns : List Column} {column : Column} (h : column ∈ columns)
    (row : Row) : (valuesOf columns row).lookup column = some (row.cell column) := by
  induction columns with
  | nil => cases h
  | cons c columns ih =>
    rw [valuesOf, List.map_cons, List.lookup_cons]
    by_cases hc : column = c
    · simp [hc]
    · have hb : (column == c) = false := by simpa using hc
      rw [hb]
      exact ih ((List.mem_cons.mp h).resolve_left hc)

end Partition

/-! ### Bounds -/

namespace Row

variable {α : Type} [Ord α] [Std.TransOrd α]

/-- The least of some values is at most each of them. -/
theorem isLE_foldl_least (a : α) (xs : List α) {x : α} (hx : x ∈ a :: xs) :
    (compare (xs.foldl least a) x).isLE := by
  induction xs generalizing a x with
  | nil =>
    rw [List.mem_singleton.mp hx]
    exact Std.ReflOrd.isLE_rfl
  | cons b xs ih =>
    have hleast : (compare (least a b) a).isLE ∧ (compare (least a b) b).isLE := by
      unfold least
      split_ifs with h
      · exact ⟨Std.ReflOrd.isLE_rfl, h⟩
      · exact ⟨by rw [Std.OrientedCmp.lt_of_not_isLE h]; rfl, Std.ReflOrd.isLE_rfl⟩
    have hfold : (compare (xs.foldl least (least a b)) (least a b)).isLE :=
      ih _ List.mem_cons_self
    rw [List.foldl_cons]
    rcases List.mem_cons.mp hx with rfl | hx
    · exact Std.TransCmp.isLE_trans hfold hleast.1
    rcases List.mem_cons.mp hx with rfl | hx
    · exact Std.TransCmp.isLE_trans hfold hleast.2
    · exact ih _ (List.mem_cons_of_mem _ hx)

/-- The greatest of some values is at least each of them. -/
theorem isGE_foldl_greatest (a : α) (xs : List α) {x : α} (hx : x ∈ a :: xs) :
    (compare (xs.foldl greatest a) x).isGE := by
  induction xs generalizing a x with
  | nil =>
    rw [List.mem_singleton.mp hx, List.foldl_nil, Std.ReflOrd.compare_self]
    rfl
  | cons b xs ih =>
    have hgreatest : (compare (greatest a b) a).isGE ∧ (compare (greatest a b) b).isGE := by
      unfold greatest
      split_ifs with h
      · exact ⟨by rw [Std.ReflOrd.compare_self]; rfl, h⟩
      · exact ⟨by rw [Std.OrientedCmp.gt_of_not_isGE h]; rfl,
          by rw [Std.ReflOrd.compare_self]; rfl⟩
    have hfold : (compare (xs.foldl greatest (greatest a b)) (greatest a b)).isGE :=
      ih _ List.mem_cons_self
    rw [List.foldl_cons]
    rcases List.mem_cons.mp hx with rfl | hx
    · exact Std.TransCmp.isGE_trans hfold hgreatest.1
    rcases List.mem_cons.mp hx with rfl | hx
    · exact Std.TransCmp.isGE_trans hfold hgreatest.2
    · exact ih _ (List.mem_cons_of_mem _ hx)

/-- The lowest values of rows are the lowest of each column. -/
theorem foldl_lower (row : Row) (rows : List Row) :
    rows.foldl lower row =
      { id := (rows.map Row.id).foldl least row.id
        message := (rows.map Row.message).foldl least row.message
        lastModified := (rows.map Row.lastModified).foldl least row.lastModified
        user := (rows.map Row.user).foldl least row.user } := by
  induction rows generalizing row with
  | nil => rfl
  | cons other rows ih => exact ih (row.lower other)

/-- The highest values of rows are the highest of each column. -/
theorem foldl_higher (row : Row) (rows : List Row) :
    rows.foldl higher row =
      { id := (rows.map Row.id).foldl greatest row.id
        message := (rows.map Row.message).foldl greatest row.message
        lastModified := (rows.map Row.lastModified).foldl greatest row.lastModified
        user := (rows.map Row.user).foldl greatest row.user } := by
  induction rows generalizing row with
  | nil => rfl
  | cons other rows ih => exact ih (row.higher other)

end Row

/-- All rows of a data file lie between its bounds. -/
theorem DataFile.isBetween_ofRows (path : Location) (partition : PartitionValues) {row : Row}
    {rows : List Row} {r : Row} (hr : r ∈ row :: rows) :
    r.IsBetween (DataFile.ofRows path partition row rows).low
      (DataFile.ofRows path partition row rows).high := by
  have hmem : ∀ {α : Type} (f : Row → α), f r ∈ f row :: rows.map f := fun f =>
    List.map_cons (f := f) ▸ List.mem_map_of_mem hr
  simp only [DataFile.ofRows, Row.foldl_lower, Row.foldl_higher]
  intro column
  cases column with
  | id => exact .int (Row.isLE_foldl_least _ _ (hmem _)) (Row.isGE_foldl_greatest _ _ (hmem _))
  | message =>
    exact .text (Row.isLE_foldl_least _ _ (hmem _)) (Row.isGE_foldl_greatest _ _ (hmem _))
  | lastModified =>
    exact .time (Row.isLE_foldl_least _ _ (hmem _)) (Row.isGE_foldl_greatest _ _ (hmem _))
  | user => exact .text (Row.isLE_foldl_least _ _ (hmem _)) (Row.isGE_foldl_greatest _ _ (hmem _))

end LogTable
