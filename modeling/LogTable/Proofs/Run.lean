import LogTable.World

/-!
# What a run ensures

`Run.Ensures run world done failed` says how a run from a world can end: with an answer and a
world that satisfy `done`, or with a failure and a world that satisfy `failed`.  There is one rule
for each way to build a run, so that a statement about an operation is derived along its
definition, and `Ensures.mono` adapts a statement to its use.  `Run.FailsOnly P run` says of all
failures of a run, from whatever world, that they satisfy `P`.
-/

namespace LogTable.Run

variable {α β ε : Type} {world : World}

/-- From `world`, the run gives an answer with `done` or a failure with `failed`; both are about the
world that is left as well. -/
def Ensures (run : Run α) (world : World) (done : α → World → Prop)
    (failed : Failure → World → Prop) : Prop :=
  match run.start world with
  | (.ok a, after) => done a after
  | (.error failure, after) => failed failure after

variable {done : α → World → Prop} {failed : Failure → World → Prop}

theorem Ensures.of_ok {run : Run α} (h : run.Ensures world done failed) {a : α} {after : World}
    (hrun : run.start world = (.ok a, after)) : done a after := by
  rw [Ensures, hrun] at h
  exact h

theorem Ensures.of_error {run : Run α} (h : run.Ensures world done failed) {failure : Failure}
    {after : World} (hrun : run.start world = (.error failure, after)) : failed failure after := by
  rw [Ensures, hrun] at h
  exact h

/-- A run whose answer is known. -/
theorem ensures_of_start {run : Run α} {a : α} {after : World}
    (hrun : run.start world = (.ok a, after)) (h : done a after) :
    run.Ensures world done failed := by
  rw [Ensures, hrun]
  exact h

/-- A run whose failure is known. -/
theorem ensures_of_start_error {run : Run α} {failure : Failure} {after : World}
    (hrun : run.start world = (.error failure, after)) (h : failed failure after) :
    run.Ensures world done failed := by
  rw [Ensures, hrun]
  exact h

theorem start_eq_of_fst {run : Run α} {answer : Except Failure α}
    (h : (run.start world).1 = answer) : run.start world = (answer, (run.start world).2) :=
  Prod.ext h rfl

/-- A run that does not fail gives an answer. -/
theorem Ensures.exists_ok {run : Run α} (h : run.Ensures world done fun _ _ => False) :
    ∃ a after, run.start world = (.ok a, after) ∧ done a after := by
  cases hrun : run.start world with
  | mk answer after =>
    cases answer with
    | ok a => exact ⟨a, after, rfl, h.of_ok hrun⟩
    | error failure => exact (h.of_error hrun).elim

/-- The answer of a run that gives this one only. -/
theorem Ensures.fst_eq_ok {run : Run α} {a : α}
    (h : run.Ensures world (fun answer _ => answer = a) fun _ _ => False) :
    (run.start world).1 = .ok a := by
  cases hrun : run.start world with
  | mk answer after =>
    cases answer with
    | ok _ => exact congrArg Except.ok (h.of_ok hrun)
    | error _ => exact (h.of_error hrun).elim

/-- The failure of a run that has this one only. -/
theorem Ensures.fst_eq_error {run : Run α} {failure : Failure}
    (h : run.Ensures world (fun _ _ => False) fun failure' _ => failure' = failure) :
    (run.start world).1 = .error failure := by
  cases hrun : run.start world with
  | mk answer after =>
    cases answer with
    | ok _ => exact (h.of_ok hrun).elim
    | error _ => exact congrArg Except.error (h.of_error hrun)

/-- A run ensures what follows in each of the two cases. -/
theorem Ensures.mono {run : Run α} {done' : α → World → Prop} {failed' : Failure → World → Prop}
    (h : run.Ensures world done failed) (hdone : ∀ a after, done a after → done' a after)
    (hfailed : ∀ failure after, failed failure after → failed' failure after) :
    run.Ensures world done' failed' := by
  unfold Ensures at h ⊢
  split at h
  · exact hdone _ _ h
  · exact hfailed _ _ h

/-- A run ensures together what it ensures. -/
theorem Ensures.and {run : Run α} {done' : α → World → Prop} {failed' : Failure → World → Prop}
    (h : run.Ensures world done failed) (h' : run.Ensures world done' failed') :
    run.Ensures world (fun a after => done a after ∧ done' a after)
      fun failure after => failed failure after ∧ failed' failure after := by
  unfold Ensures at h h' ⊢
  split at h <;> rename_i heq <;> rw [heq] at h' <;> exact ⟨h, h'⟩

/-- Nothing is claimed of the run. -/
theorem ensures_true (run : Run α) (world : World) :
    run.Ensures world (fun _ _ => True) fun _ _ => True := by
  unfold Ensures
  split <;> trivial

/-- What holds of the world that is left in both cases. -/
theorem Ensures.after {run : Run α} {P : World → Prop}
    (h : run.Ensures world (fun _ after => P after) fun _ after => P after) :
    P (run.start world).2 := by
  unfold Ensures at h
  split at h <;> rename_i heq <;> rw [heq] <;> exact h

@[simp] theorem ofExcept_ok (a : α) : ofExcept (.ok a) = pure a := rfl

@[simp] theorem ofExcept_error (failure : Failure) :
    (ofExcept (.error failure) : Run α) = throw failure := rfl

theorem ensures_pure {a : α} (h : done a world) : (pure a : Run α).Ensures world done failed := h

theorem ensures_throw {failure : Failure} (h : failed failure world) :
    (throw failure : Run α).Ensures world done failed := h

theorem start_bind (run : Run α) (f : α → Run β) :
    (run >>= f).start world =
      match run.start world with
      | (.ok a, after) => (f a).start after
      | (.error failure, after) => (.error failure, after) := by
  simp only [start, bind, ExceptT.bind, ExceptT.mk, ExceptT.run, ExceptT.bindCont, StateT.bind,
    StateT.run]
  rcases run world with ⟨_ | _, _⟩ <;> rfl

@[simp] theorem start_pure (a : α) : (pure a : Run α).start world = (.ok a, world) := rfl

@[simp] theorem start_throw (failure : Failure) :
    (throw failure : Run α).start world = (.error failure, world) := rfl

@[simp] theorem start_tree : Run.tree.start world = (.ok world.tree, world) := rfl

@[simp] theorem start_home : Run.home.start world = (.ok world.home, world) := rfl

@[simp] theorem start_setTree (tree : FileTree Content) :
    (setTree tree).start world = (.ok (), { world with tree }) := rfl

@[simp] theorem start_record (event : Event) : (record event).start world =
    (.ok (), { world with journal := world.journal ++ [event] }) := rfl

@[simp] theorem start_ofOutcome (failure : ε → Failure) (outcome : Except ε α × FileTree Content) :
    (ofOutcome failure outcome).start world =
      (outcome.1.mapError failure, { world with tree := outcome.2 }) := by
  obtain ⟨_ | _, _⟩ := outcome <;> rfl

/-- A sequence that gives an answer does so from where its first run ends. -/
theorem exists_of_start_bind_eq_ok {run : Run α} {f : α → Run β} {b : β} {after : World}
    (h : (run >>= f).start world = (.ok b, after)) :
    ∃ a middle, run.start world = (.ok a, middle) ∧ (f a).start middle = (.ok b, after) := by
  rw [start_bind] at h
  cases hrun : run.start world with
  | mk answer middle =>
    rw [hrun] at h
    cases answer with
    | error failure => cases h
    | ok a => exact ⟨a, middle, rfl, h⟩

/-- A sequence gives the same answer from two worlds if its first run does, and its second run does
from any worlds. -/
theorem fst_start_bind_congr {run : Run α} {f : α → Run β} {before after : World}
    (h : (run.start after).1 = (run.start before).1)
    (hf : ∀ a first second, ((f a).start first).1 = ((f a).start second).1) :
    ((run >>= f).start after).1 = ((run >>= f).start before).1 := by
  rw [start_bind, start_bind]
  cases hbefore : run.start before with
  | mk answer middle =>
    cases hafter : run.start after with
    | mk answer' middle' =>
      rw [hbefore, hafter] at h
      obtain rfl : answer' = answer := h
      cases answer' with
      | error _ => rfl
      | ok a => exact hf a middle' middle

/-- A sequence ensures what its second run does from wherever the first one ends. -/
theorem ensures_bind {run : Run α} {f : α → Run β} {done : β → World → Prop}
    (h : run.Ensures world (fun a after => (f a).Ensures after done failed) failed) :
    (run >>= f).Ensures world done failed := by
  unfold Ensures at h ⊢
  rw [start_bind]
  split at h <;> exact h

theorem ensures_tree {done : FileTree Content → World → Prop} (h : done world.tree world) :
    Run.tree.Ensures world done failed := h

theorem ensures_home {done : Location → World → Prop} (h : done world.home world) :
    Run.home.Ensures world done failed := h

theorem ensures_setTree {tree : FileTree Content} {done : Unit → World → Prop}
    (h : done () { world with tree }) : (setTree tree).Ensures world done failed := h

theorem ensures_record {event : Event} {done : Unit → World → Prop}
    (h : done () { world with journal := world.journal ++ [event] }) :
    (record event).Ensures world done failed := h

/-- The outcome of an operation on files leaves its files. -/
theorem ensures_ofOutcome {failure : ε → Failure} {outcome : Except ε α × FileTree Content}
    (hok : ∀ a, outcome.1 = .ok a → done a { world with tree := outcome.2 })
    (herror : ∀ e, outcome.1 = .error e → failed (failure e) { world with tree := outcome.2 }) :
    (ofOutcome failure outcome).Ensures world done failed := by
  obtain ⟨answer, tree⟩ := outcome
  cases answer with
  | ok a => exact hok a rfl
  | error e => exact herror e rfl

theorem ensures_ofExcept {answer : Except Failure α} (hok : ∀ a, answer = .ok a → done a world)
    (herror : ∀ failure, answer = .error failure → failed failure world) :
    (ofExcept answer).Ensures world done failed := by
  cases answer with
  | ok a => exact hok a rfl
  | error failure => exact herror failure rfl

/-- An answer whose fault is put into other words. -/
theorem ensures_ofExcept_mapError {answer : Except ε α} {failure : ε → Failure}
    (hok : ∀ a, answer = .ok a → done a world)
    (herror : ∀ e, answer = .error e → failed (failure e) world) :
    (ofExcept (answer.mapError failure)).Ensures world done failed := by
  cases answer with
  | ok a => exact hok a rfl
  | error e => exact herror e rfl

/-! ### Failures that a run can have -/

variable {P : Failure → Prop}

/-- All failures of the run satisfy `P`. -/
def FailsOnly (P : Failure → Prop) (run : Run α) : Prop :=
  ∀ world failure after, run.start world = (.error failure, after) → P failure

theorem failsOnly_pure (a : α) : (pure a : Run α).FailsOnly P :=
  fun _ _ _ h => nomatch h

theorem failsOnly_throw {failure : Failure} (h : P failure) :
    (throw failure : Run α).FailsOnly P := by
  intro world failure' after hrun
  cases hrun
  exact h

/-- Nothing comes after a failure. -/
theorem failsOnly_throw_bind {failure : Failure} (h : P failure) (f : α → Run β) :
    ((throw failure : Run α) >>= f).FailsOnly P :=
  failsOnly_throw (α := β) h

theorem failsOnly_tree : tree.FailsOnly P :=
  fun _ _ _ h => nomatch h

theorem failsOnly_home : home.FailsOnly P :=
  fun _ _ _ h => nomatch h

theorem failsOnly_setTree (tree : FileTree Content) : (setTree tree).FailsOnly P :=
  fun _ _ _ h => nomatch h

theorem failsOnly_record (event : Event) : (record event).FailsOnly P :=
  fun _ _ _ h => nomatch h

theorem failsOnly_ofOutcome {failure : ε → Failure} (h : ∀ e, P (failure e))
    (outcome : Except ε α × FileTree Content) : (ofOutcome failure outcome).FailsOnly P := by
  obtain ⟨_ | _, _⟩ := outcome <;> intro world failure' after hrun <;> cases hrun
  exact h _

theorem failsOnly_ofExcept {answer : Except Failure α}
    (h : ∀ failure, answer = .error failure → P failure) : (ofExcept answer).FailsOnly P := by
  cases answer with
  | ok a => exact failsOnly_pure a
  | error failure => exact failsOnly_throw (h failure rfl)

theorem FailsOnly.mono {Q : Failure → Prop} {run : Run α} (h : run.FailsOnly P)
    (hPQ : ∀ failure, P failure → Q failure) : run.FailsOnly Q :=
  fun world failure after hrun => hPQ failure (h world failure after hrun)

theorem FailsOnly.bind {run : Run α} {f : α → Run β} (h : run.FailsOnly P)
    (hf : ∀ a, (f a).FailsOnly P) : (run >>= f).FailsOnly P := by
  intro world failure after hrun
  rw [start_bind] at hrun
  cases hstart : run.start world with
  | mk answer middle =>
    rw [hstart] at hrun
    cases answer with
    | error failure' =>
      cases hrun
      exact h _ _ _ hstart
    | ok a => exact hf a _ _ _ hrun

/-- What is known of all failures of a run adds to what the run ensures. -/
theorem Ensures.failsOnly {run : Run α} {world : World} {done : α → World → Prop}
    {failed : Failure → World → Prop} (h : run.Ensures world done failed)
    (hfails : run.FailsOnly P) :
    run.Ensures world done fun failure after => failed failure after ∧ P failure := by
  have hfails := hfails world
  unfold Ensures at h ⊢
  split at h
  · exact h
  · exact ⟨h, hfails _ _ ‹_›⟩

-- Runs are told apart by what they ensure, so nothing is to be gained from carrying them out.
attribute [irreducible] Ensures

end LogTable.Run
