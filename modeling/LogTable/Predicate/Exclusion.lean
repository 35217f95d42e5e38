import LogTable.Predicate.Range

/-!
# Exclusion by ranges

If the ranges of the columns exclude a truth of a predicate, the predicate does not have that truth
on any row whose values the ranges cover (`Expr.truth_ne_of_isExcluded`).  The reason is in the
order alone, so the comparisons are treated once for every ordered type of values
(`holdsFor_eq_false_of_excludes`).
-/

namespace LogTable.Predicate

/-! ### Settled connectives -/

namespace Truth

theorem and_eq_true_iff {s t : Truth} : s.and t = some true ↔ s = some true ∧ t = some true := by
  rcases s with _ | _ | _ <;> rcases t with _ | _ | _ <;> decide

theorem and_eq_false_iff {s t : Truth} :
    s.and t = some false ↔ s = some false ∨ t = some false := by
  rcases s with _ | _ | _ <;> rcases t with _ | _ | _ <;> decide

theorem or_eq_true_iff {s t : Truth} : s.or t = some true ↔ s = some true ∨ t = some true := by
  rcases s with _ | _ | _ <;> rcases t with _ | _ | _ <;> decide

theorem or_eq_false_iff {s t : Truth} :
    s.or t = some false ↔ s = some false ∧ t = some false := by
  rcases s with _ | _ | _ <;> rcases t with _ | _ | _ <;> decide

theorem not_eq_some_iff {s : Truth} {b : Bool} : s.not = some b ↔ s = some !b := by
  rcases s with _ | _ | _ <;> cases b <;> decide

end Truth

/-! ### Comparisons in an order -/

/-- The orders of `v` to the bounds of a range show that no value of the range stands in the given
relation to `v`. -/
def CompareOp.excludesFor (op : CompareOp) (low high : Ordering) : Bool :=
  match op with
  | .equal => !lessEqual.holdsFor low || !greaterEqual.holdsFor high
  | .unequal => !unequal.holdsFor low && !unequal.holdsFor high
  | .less => !less.holdsFor low
  | .lessEqual => !lessEqual.holdsFor low
  | .greater => !greater.holdsFor high
  | .greaterEqual => !greaterEqual.holdsFor high

/-- What the bounds exclude fails, in terms of the orders of `v` to the lower bound, the upper bound
and a value between them. -/
private theorem CompareOp.holdsFor_eq_false (op : CompareOp) (low high between : Ordering)
    (hle : between.isLE → low.isLE) (hlt : between = .lt → low = .lt)
    (hge : between.isGE → high.isGE) (hgt : between = .gt → high = .gt)
    (h : op.excludesFor low high = true) : op.holdsFor between = false := by
  revert h hgt hge hlt hle
  cases op <;> cases low <;> cases high <;> cases between <;> decide

/-- A comparison that the bounds exclude fails for every value between them. -/
theorem CompareOp.holdsFor_eq_false_of_excludes {α : Type} [Ord α] [Std.TransOrd α]
    {low x high v : α} (hlow : (compare low x).isLE) (hhigh : (compare high x).isGE)
    {op : CompareOp} (h : op.excludesFor (compare low v) (compare high v) = true) :
    op.holdsFor (compare x v) = false :=
  op.holdsFor_eq_false (compare low v) (compare high v) (compare x v)
    (Std.TransCmp.isLE_trans hlow) (Std.TransCmp.lt_of_isLE_of_lt hlow)
    (Std.TransCmp.isGE_trans hhigh) (Std.TransCmp.gt_of_isGE_of_gt hhigh) h

/-- A comparison is the flipped comparison of the sides exchanged. -/
theorem CompareOp.holdsFor_compare {α : Type} [Ord α] [Std.OrientedOrd α] (op : CompareOp)
    (a b : α) : op.holdsFor (compare a b) = op.flip.holdsFor (compare b a) := by
  rw [Std.OrientedOrd.eq_swap, ← CompareOp.holdsFor_flip, Ordering.swap_swap]

namespace Range

/-- A value lies between the bounds of a range. -/
inductive Covers : Range → Value → Prop where
  | int {low n high : Int} (hlow : (compare low n).isLE) (hhigh : (compare high n).isGE) :
    Covers ⟨.int low, .int high⟩ (.int n)
  | text {low s high : String} (hlow : (compare low s).isLE) (hhigh : (compare high s).isGE) :
    Covers ⟨.text low, .text high⟩ (.text s)
  | time {low t high : Int} (hlow : (compare low t).isLE) (hhigh : (compare high t).isGE) :
    Covers ⟨.time low, .time high⟩ (.time t)

/-- Values of an ordered type, with their order as values, are excluded by their orders. -/
theorem excludes_eq {α : Type} [Ord α] {mk : α → Value}
    (hmk : ∀ a b, Value.compare? (mk a) (mk b) = .ok (some (compare a b))) (low high v : α)
    (op : CompareOp) :
    (⟨mk low, mk high⟩ : Range).excludes op (mk v) =
      op.excludesFor (compare low v) (compare high v) := by
  have hfails : ∀ op a b, fails op (mk a) (mk b) = !op.holdsFor (compare a b) := by
    intro op a b
    simp only [fails, Value.compareWith, hmk, bind, Except.bind, pure, Except.pure, Option.map]
    cases op.holdsFor (compare a b) <;> rfl
  cases op <;> simp [excludes, CompareOp.excludesFor, hfails]

/-- A comparison that a range excludes does not hold for a value of the range. -/
theorem Covers.compareWith_ne {r : Range} {x v : Value} (hx : r.Covers x) {op : CompareOp}
    (h : r.excludes op v = true) : Value.compareWith op x v ≠ .ok (some true) := by
  cases hx with
  | int hlow hhigh =>
    cases v with
    | int n =>
      rw [excludes_eq (fun _ _ => rfl)] at h
      simp [Value.compareWith, Value.compare?, bind, Except.bind, pure, Except.pure,
        CompareOp.holdsFor_eq_false_of_excludes hlow hhigh h]
    | _ => simp [Value.compareWith, Value.compare?, bind, Except.bind, pure, Except.pure]
  | text hlow hhigh =>
    cases v with
    | text s =>
      rw [excludes_eq (fun _ _ => rfl)] at h
      simp [Value.compareWith, Value.compare?, bind, Except.bind, pure, Except.pure,
        CompareOp.holdsFor_eq_false_of_excludes hlow hhigh h]
    | _ => simp [Value.compareWith, Value.compare?, bind, Except.bind, pure, Except.pure]
  | time hlow hhigh =>
    cases v with
    | time t =>
      rw [excludes_eq (fun _ _ => rfl)] at h
      simp [Value.compareWith, Value.compare?, bind, Except.bind, pure, Except.pure,
        CompareOp.holdsFor_eq_false_of_excludes hlow hhigh h]
    | _ => simp [Value.compareWith, Value.compare?, bind, Except.bind, pure, Except.pure]

/-- A comparison with a value of a range is the flipped comparison of the two. -/
theorem Covers.compareWith_flip {r : Range} {x : Value} (hx : r.Covers x) (op : CompareOp)
    (v : Value) : Value.compareWith op v x = Value.compareWith op.flip x v := by
  cases hx with
  | int _ _ =>
    cases v with
    | int n =>
      simp only [Value.compareWith, Value.compare?, bind, Except.bind, Option.map]
      rw [CompareOp.holdsFor_compare]
    | _ => rfl
  | text _ _ =>
    cases v with
    | text s =>
      simp only [Value.compareWith, Value.compare?, bind, Except.bind, Option.map]
      rw [CompareOp.holdsFor_compare]
    | _ => rfl
  | time _ _ =>
    cases v with
    | time t =>
      simp only [Value.compareWith, Value.compare?, bind, Except.bind, Option.map]
      rw [CompareOp.holdsFor_compare]
    | _ => rfl

end Range

namespace Expr

variable {row : Column → Value} {ranges : Column → Option Range}

/-- The value of an expression without columns is the same on every row. -/
theorem eval_of_constant? {e : Expr} {v : Value} (h : e.constant? = some v) :
    e.eval row = .ok v := by
  unfold constant? at h
  split at h
  · rename_i hcolumns
    rw [e.eval_congr fun c hc => absurd hc (by simp [hcolumns])]
    cases heval : e.eval fun _ => .null with
    | error fault => simp [heval, Except.toOption] at h
    | ok w => simpa [heval, Except.toOption] using h
  · cases h

/-- The truth of a comparison. -/
theorem truth_compare (op : CompareOp) (a b : Expr) :
    (compare op a b).truth row = (do
      let v ← a.eval row
      let w ← b.eval row
      Value.compareWith op v w) := by
  unfold truth
  rw [eval]
  cases a.eval row with
  | error fault => rfl
  | ok v =>
    cases b.eval row with
    | error fault => rfl
    | ok w =>
      simp only [bind, Except.bind, pure, Except.pure]
      cases Value.compareWith op v w with
      | error fault => rfl
      | ok t => exact Value.truth_ofTruth t

/-- A comparison that the ranges exclude does not hold on a row that they cover. -/
theorem truth_compare_ne (hrow : ∀ c r, ranges c = some r → r.Covers (row c)) {op : CompareOp}
    {a b : Expr} (h : isComparisonExcluded ranges op a b = true) :
    (compare op a b).truth row ≠ .ok (some true) := by
  rw [truth_compare]
  unfold isComparisonExcluded at h
  split at h
  · rename_i c
    split at h
    · rename_i r v hr hv
      rw [eval_of_constant? hv]
      exact (hrow c r hr).compareWith_ne h
    · cases h
  · rename_i c _
    split at h
    · rename_i r v hr hv
      rw [eval_of_constant? hv]
      simp only [bind, Except.bind, eval]
      rw [(hrow c r hr).compareWith_flip]
      exact (hrow c r hr).compareWith_ne h
    · cases h
  · cases h

/-- The opposite comparison holds exactly when the comparison is known to fail. -/
theorem truth_compare_opposite (op : CompareOp) (a b : Expr) :
    (compare op.opposite a b).truth row = .ok (some true) ↔
      (compare op a b).truth row = .ok (some false) := by
  rw [truth_compare, truth_compare]
  cases a.eval row with
  | error fault => simp [bind, Except.bind]
  | ok v =>
    cases b.eval row with
    | error fault => simp [bind, Except.bind]
    | ok w =>
      simp only [bind, Except.bind, Value.compareWith]
      rcases Value.compare? v w with _ | _ | o <;> simp [pure, Except.pure]

/-- The truth of a conjunction or a disjunction. -/
theorem truth_connective {e : Expr} {a b : Expr} {connect : Truth → Truth → Truth}
    (h : e.eval row = (do
      let v ← a.eval row
      let w ← b.eval row
      return .ofTruth (connect (← v.truth) (← w.truth)))) {t : Truth}
    (ht : e.truth row = .ok t) :
    ∃ s s', a.truth row = .ok s ∧ b.truth row = .ok s' ∧ t = connect s s' := by
  unfold truth at ht ⊢
  rw [h] at ht
  cases ha : a.eval row with
  | error fault => simp [ha, bind, Except.bind] at ht
  | ok v =>
    cases hb : b.eval row with
    | error fault => simp [ha, hb, bind, Except.bind] at ht
    | ok w =>
      cases hv : v.truth with
      | error fault => simp [ha, hb, hv, bind, Except.bind] at ht
      | ok s =>
        cases hw : w.truth with
        | error fault => simp [ha, hb, hv, hw, bind, Except.bind] at ht
        | ok s' =>
          simp only [ha, hb, hv, hw, bind, Except.bind, pure, Except.pure, Value.truth_ofTruth,
            Except.ok.injEq] at ht
          exact ⟨s, s', hv, hw, ht.symm⟩

/-- The truth of a negation. -/
theorem truth_not {e : Expr} {t : Truth} (ht : (not e).truth row = .ok t) :
    ∃ s, e.truth row = .ok s ∧ t = s.not := by
  unfold truth at ht ⊢
  rw [eval] at ht
  cases he : e.eval row with
  | error fault => simp [he, bind, Except.bind] at ht
  | ok v =>
    cases hv : v.truth with
    | error fault => simp [he, hv, bind, Except.bind] at ht
    | ok s =>
      simp only [he, hv, bind, Except.bind, pure, Except.pure, Value.truth_ofTruth,
        Except.ok.injEq] at ht
      exact ⟨s, hv, ht.symm⟩

/-- A truth that the ranges of the columns exclude is not the truth of the expression on a row that
they cover. -/
theorem truth_ne_of_isExcluded (hrow : ∀ c r, ranges c = some r → r.Covers (row c)) (e : Expr)
    (wanted : Bool) (h : e.isExcluded ranges wanted = true) :
    e.truth row ≠ .ok (some wanted) := by
  induction e generalizing wanted with
  | const v =>
    cases v with
    | bool b =>
      intro ht
      simp only [isExcluded, bne_iff_ne] at h
      exact h (by simpa [truth, eval, Value.truth, bind, Except.bind] using ht)
    | null => simp [truth, eval, Value.truth, bind, Except.bind]
    | _ => simp [isExcluded] at h
  | compare op a b =>
    rw [isExcluded] at h
    cases wanted with
    | true => exact truth_compare_ne hrow h
    | false => exact fun ht => truth_compare_ne hrow h ((truth_compare_opposite op a b).mpr ht)
  | and a b iha ihb =>
    intro ht
    obtain ⟨s, s', hs, hs', heq⟩ := truth_connective rfl ht
    cases wanted with
    | true =>
      have hboth := Truth.and_eq_true_iff.mp heq.symm
      simp only [isExcluded, if_true, Bool.or_eq_true] at h
      exact h.elim (fun ha => iha true ha (hboth.1 ▸ hs)) fun hb => ihb true hb (hboth.2 ▸ hs')
    | false =>
      have hone := Truth.and_eq_false_iff.mp heq.symm
      simp only [isExcluded, Bool.false_eq_true, if_false, Bool.and_eq_true] at h
      exact hone.elim (fun ha => iha false h.1 (ha ▸ hs)) fun hb => ihb false h.2 (hb ▸ hs')
  | or a b iha ihb =>
    intro ht
    obtain ⟨s, s', hs, hs', heq⟩ := truth_connective rfl ht
    cases wanted with
    | true =>
      have hone := Truth.or_eq_true_iff.mp heq.symm
      simp only [isExcluded, if_true, Bool.and_eq_true] at h
      exact hone.elim (fun ha => iha true h.1 (ha ▸ hs)) fun hb => ihb true h.2 (hb ▸ hs')
    | false =>
      have hboth := Truth.or_eq_false_iff.mp heq.symm
      simp only [isExcluded, Bool.false_eq_true, if_false, Bool.or_eq_true] at h
      exact h.elim (fun ha => iha false ha (hboth.1 ▸ hs)) fun hb => ihb false hb (hboth.2 ▸ hs')
  | not e ih =>
    intro ht
    obtain ⟨s, hs, heq⟩ := truth_not ht
    have hopposite := Truth.not_eq_some_iff.mp heq.symm
    rw [isExcluded] at h
    exact ih _ h (hopposite ▸ hs)
  | _ => simp [isExcluded] at h

end Expr

end LogTable.Predicate
