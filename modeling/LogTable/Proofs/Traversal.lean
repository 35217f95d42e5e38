import Mathlib.Data.List.Forall2

/-!
# Traversals that can fail

`List.mapM` over answers that can fail succeeds exactly when it succeeds on each item, and then
gives the answers in the order of the items.
-/

namespace LogTable

variable {α β ε : Type}

/-- Two lists that are related item by item through a third. -/
theorem forall₂_comp {γ : Type} {R : α → β → Prop} {S : β → γ → Prop} {xs : List α} {ys : List β}
    {zs : List γ} (hR : List.Forall₂ R xs ys) (hS : List.Forall₂ S ys zs) :
    List.Forall₂ (fun x z => ∃ y, R x y ∧ S y z) xs zs := by
  induction hR generalizing zs with
  | nil =>
    cases hS
    exact .nil
  | cons hxy _ ih =>
    cases hS with
    | cons hyz hrest => exact .cons ⟨_, hxy, hyz⟩ (ih hrest)

/-- Each item of the second of two related lists is related to an item of the first. -/
theorem exists_mem_of_forall₂_right {R : α → β → Prop} {xs : List α} {ys : List β}
    (h : List.Forall₂ R xs ys) {y : β} (hy : y ∈ ys) : ∃ x ∈ xs, R x y := by
  induction h with
  | nil => cases hy
  | @cons x y' xs ys hxy _ ih =>
    rcases List.mem_cons.mp hy with rfl | hy
    · exact ⟨x, List.mem_cons_self, hxy⟩
    · obtain ⟨x', hx', hR⟩ := ih hy
      exact ⟨x', List.mem_cons_of_mem _ hx', hR⟩

/-- Filtering items by the tags put to them is filtering them by what the tags are made of. -/
theorem map_fst_filter_zip_map (f : α → β) (p : β → Bool) (xs : List α) :
    ((xs.zip (xs.map f)).filter fun y => p y.2).map Prod.fst = xs.filter fun x => p (f x) := by
  induction xs with
  | nil => rfl
  | cons x xs ih =>
    rw [List.map_cons, List.zip_cons_cons, List.filter_cons, List.filter_cons]
    split_ifs
    · rw [List.map_cons, ih]
    · exact ih

/-- Filtering tagged items by their tags filters the items. -/
theorem map_filter_of_forall₂ {R : α → α × β → Prop} {p : β → Bool} {q : α → Bool} {xs : List α}
    {ys : List (α × β)} (h : List.Forall₂ R xs ys)
    (hpq : ∀ x ∈ xs, ∀ y, R x y → y.1 = x ∧ p y.2 = q x) :
    (ys.filter fun y => p y.2).map Prod.fst = xs.filter q := by
  induction h with
  | nil => rfl
  | @cons x y xs ys hxy _ ih =>
    obtain ⟨hfst, htag⟩ := hpq x List.mem_cons_self y hxy
    rw [List.filter_cons, List.filter_cons, htag]
    have hrest := ih fun x' hx' => hpq x' (List.mem_cons_of_mem _ hx')
    split_ifs
    · rw [List.map_cons, hfst, hrest]
    · exact hrest

/-- Two steps succeed exactly when the first does and the second does after it. -/
theorem bind_eq_ok_iff {x : Except ε α} {f : α → Except ε β} {b : β} :
    (x >>= f) = .ok b ↔ ∃ a, x = .ok a ∧ f a = .ok b := by
  cases x <;> simp [bind, Except.bind]

/-- A traversal with faults succeeds exactly when every item does. -/
theorem mapM_eq_ok_iff {f : α → Except ε β} {xs : List α} {ys : List β} :
    xs.mapM f = .ok ys ↔ List.Forall₂ (fun x y => f x = .ok y) xs ys := by
  induction xs generalizing ys with
  | nil => cases ys <;> simp [pure, Except.pure]
  | cons x xs ih =>
    rw [List.mapM_cons]
    cases hx : f x with
    | error e => cases ys <;> simp [bind, Except.bind, hx]
    | ok y =>
      cases hxs : xs.mapM f with
      | error e => cases ys <;> simp [bind, Except.bind, ← ih, hxs, hx]
      | ok ys' => cases ys <;> simp [bind, Except.bind, pure, Except.pure, ← ih, hxs, hx]

/-- A traversal with missing answers succeeds exactly when every item has an answer. -/
theorem mapM_eq_some_iff {f : α → Option β} {xs : List α} {ys : List β} :
    xs.mapM f = some ys ↔ List.Forall₂ (fun x y => f x = some y) xs ys := by
  induction xs generalizing ys with
  | nil => cases ys <;> simp [pure]
  | cons x xs ih =>
    rw [List.mapM_cons]
    cases hx : f x with
    | none => cases ys <;> simp [hx]
    | some y =>
      cases hxs : xs.mapM f with
      | none => cases ys <;> simp [← ih, hxs, hx]
      | some ys' => cases ys <;> simp [pure, ← ih, hxs, hx]

/-- Traversals are the same if they do the same with each item. -/
theorem mapM_congr {f g : α → Option β} {xs : List α} (h : ∀ x ∈ xs, f x = g x) :
    xs.mapM f = xs.mapM g := by
  induction xs with
  | nil => rfl
  | cons x xs ih =>
    rw [List.mapM_cons, List.mapM_cons, h x List.mem_cons_self,
      ih fun x' hx' => h x' (List.mem_cons_of_mem _ hx')]

/-- A fault of a traversal is the fault of an item. -/
theorem exists_of_mapM_eq_error {f : α → Except ε β} {xs : List α} {e : ε}
    (h : xs.mapM f = .error e) : ∃ x ∈ xs, f x = .error e := by
  induction xs with
  | nil => simp [pure, Except.pure] at h
  | cons x xs ih =>
    rw [List.mapM_cons] at h
    cases hx : f x with
    | error e' =>
      rw [hx] at h
      cases h
      exact ⟨x, List.mem_cons_self, hx⟩
    | ok y =>
      cases hxs : xs.mapM f with
      | ok ys => simp [bind, Except.bind, pure, Except.pure, hx, hxs] at h
      | error e' =>
        simp only [bind, Except.bind, hx, hxs] at h
        obtain ⟨x', hmem, hx'⟩ := ih (hxs.trans h)
        exact ⟨x', List.mem_cons_of_mem _ hmem, hx'⟩

/-- A traversal of the numbers below `n` has the fault of the first number that has one. -/
theorem mapM_range_eq_error {f : Nat → Except ε β} {n k : Nat} {e : ε} (hk : k < n)
    (hfront : ∀ i < k, ∃ y, f i = .ok y) (hf : f k = .error e) :
    (List.range n).mapM f = .error e := by
  induction n with
  | zero => cases hk
  | succ n ih =>
    rw [List.range_succ, List.mapM_append]
    rcases Nat.lt_succ_iff_lt_or_eq.mp hk with hlt | rfl
    · rw [ih hlt]
      rfl
    · cases hfirst : (List.range k).mapM f with
      | ok ys => simp [bind, Except.bind, hf]
      | error e' =>
        obtain ⟨i, hi, hfault⟩ := exists_of_mapM_eq_error hfirst
        obtain ⟨y, hy⟩ := hfront i (List.mem_range.mp hi)
        cases hfault.symm.trans hy

end LogTable
