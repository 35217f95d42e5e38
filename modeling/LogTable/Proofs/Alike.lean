import LogTable.Proofs.Evolution
import LogTable.Proofs.FileTree.View

/-!
# Runs from related worlds

Two runs agree from two worlds if they give the same answer and leave related worlds
(`Run.AgreeFrom`), and they are alike if they do so from all related worlds (`Run.Alike`).  Mostly
the worlds have the same home, and the relation is one of their files (`World.Related`); then
reading and replacing the files, recording and failing are alike.  If the operations of a table and
its removal are like themselves (`Operations.AreAlike`), then so are all steps (`Step.alike_runAt`)
and scenarios (`Scenario.alike_run`).
-/

namespace LogTable

open FileTree Predicate

/-- The homes are the same, and the files are related; the journals may differ. -/
def World.Related (Q : FileTree Content → FileTree Content → Prop) (first second : World) : Prop :=
  first.home = second.home ∧ Q first.tree second.tree

/-- The homes are the same, and every look-up finds the same. -/
abbrev World.SameView : World → World → Prop :=
  World.Related FileTree.SameView

namespace Run

variable {α β ε : Type} {R : World → World → Prop}
  {Q : FileTree Content → FileTree Content → Prop} {first second : World}

/-- From the two worlds, the two runs give the same answer and leave related worlds. -/
def AgreeFrom (R : World → World → Prop) (run run' : Run α) (first second : World) : Prop :=
  (run.start first).1 = (run'.start second).1 ∧ R (run.start first).2 (run'.start second).2

/-- From related worlds, the two runs give the same answer and leave related worlds. -/
def Alike (R : World → World → Prop) (run run' : Run α) : Prop :=
  ∀ ⦃first second : World⦄, R first second → run.AgreeFrom R run' first second

/-- Runs that agree stay in agreement when runs come after them that agree from where they end. -/
theorem AgreeFrom.bind_of_start {run run' : Run α} {f f' : α → Run β}
    (h : run.AgreeFrom R run' first second)
    (hf : ∀ a after after', run.start first = (.ok a, after) → run'.start second = (.ok a, after') →
      R after after' → (f a).AgreeFrom R (f' a) after after') :
    (run >>= f).AgreeFrom R (run' >>= f') first second := by
  obtain ⟨hanswer, hrelated⟩ := h
  unfold AgreeFrom
  rw [start_bind, start_bind]
  cases hrun : run.start first with
  | mk answer after =>
    cases hrun' : run'.start second with
    | mk answer' after' =>
      simp only [hrun, hrun'] at hanswer hrelated
      subst hanswer
      cases answer with
      | error failure => exact ⟨rfl, hrelated⟩
      | ok a => exact hf a after after' hrun hrun' hrelated

/-- Runs that agree stay in agreement when runs that are alike come after them. -/
theorem AgreeFrom.bind {run run' : Run α} {f f' : α → Run β} (h : run.AgreeFrom R run' first second)
    (hf : ∀ a, (run.start first).1 = .ok a → (f a).Alike R (f' a)) :
    (run >>= f).AgreeFrom R (run' >>= f') first second :=
  h.bind_of_start fun a _ _ hrun _ hrelated => hf a (congrArg Prod.fst hrun) hrelated

theorem Alike.bind {run run' : Run α} {f f' : α → Run β} (h : run.Alike R run')
    (hf : ∀ a, (f a).Alike R (f' a)) : (run >>= f).Alike R (run' >>= f') :=
  fun _ _ hrelated => (h hrelated).bind fun a _ => hf a

theorem alike_pure (a : α) : (pure a : Run α).Alike R (pure a) :=
  fun _ _ hrelated => ⟨rfl, hrelated⟩

theorem alike_throw (failure : Failure) : (throw failure : Run α).Alike R (throw failure) :=
  fun _ _ hrelated => ⟨rfl, hrelated⟩

/-- Nothing comes after a failure. -/
theorem alike_throw_bind (failure : Failure) (f f' : α → Run β) :
    ((throw failure : Run α) >>= f).Alike R (throw failure >>= f') :=
  alike_throw (α := β) failure

theorem alike_ofExcept (answer : Except Failure α) :
    (ofExcept answer).Alike R (ofExcept answer) := by
  cases answer with
  | ok a => exact alike_pure a
  | error failure => exact alike_throw failure

theorem alike_home : home.Alike (World.Related Q) home :=
  fun _ _ hrelated => ⟨congrArg Except.ok hrelated.1, hrelated⟩

/-- What is done with the files has to be alike for related files. -/
theorem alike_tree_bind {f f' : FileTree Content → Run α}
    (h : ∀ tree tree' : FileTree Content, Q tree tree' →
      (f tree).Alike (World.Related Q) (f' tree')) :
    (tree >>= f).Alike (World.Related Q) (tree >>= f') :=
  fun _ _ hrelated => h _ _ hrelated.2 hrelated

theorem alike_setTree {tree tree' : FileTree Content} (h : Q tree tree') :
    (setTree tree).Alike (World.Related Q) (setTree tree') :=
  fun _ _ hrelated => ⟨rfl, hrelated.1, h⟩

theorem alike_record (event event' : Event) :
    (record event).Alike (World.Related Q) (record event') :=
  fun _ _ hrelated => ⟨rfl, hrelated⟩

theorem alike_ofOutcome (failure : ε → Failure) {outcome outcome' : Except ε α × FileTree Content}
    (h : outcome.1 = outcome'.1 ∧ Q outcome.2 outcome'.2) :
    (ofOutcome failure outcome).Alike (World.Related Q) (ofOutcome failure outcome') := by
  obtain ⟨answer, tree⟩ := outcome
  obtain ⟨answer', tree'⟩ := outcome'
  obtain ⟨rfl, hrelated⟩ := h
  refine (alike_setTree hrelated).bind fun _ => ?_
  cases answer with
  | ok a => exact alike_pure a
  | error e => exact alike_throw _

/-- What is recorded first makes no difference. -/
theorem AgreeFrom.record_bind {f f' : Unit → Run α} {event event' : Event}
    (h : (f ()).AgreeFrom R (f' ()) { first with journal := first.journal ++ [event] }
      { second with journal := second.journal ++ [event'] }) :
    (record event >>= f).AgreeFrom R (record event' >>= f') first second := by
  unfold AgreeFrom
  rw [start_bind, start_bind]
  exact h

end Run

open Run

variable {R : World → World → Prop} {storage : StorageMode} {uri : String}

namespace Scenario

theorem alike_appendBatches (scenario : Scenario) (happend : ∀ rows,
      (Table.append ⟨uri⟩ rows scenario.partitionBy).Alike R
        (Table.append ⟨uri⟩ rows scenario.partitionBy))
    (clock : Clock) (b : Nat) (starts : List Int64) :
    (scenario.appendBatches ⟨uri⟩ clock b starts).Alike R
      (scenario.appendBatches ⟨uri⟩ clock b starts) := by
  induction starts generalizing b with
  | nil => exact alike_pure []
  | cons start starts ih =>
    exact (alike_ofExcept _).bind fun rows => (happend rows).bind fun _ =>
      (ih (b + 1)).bind fun _ => alike_pure _

theorem alike_removeTable (scenario : Scenario)
    (hreset : (storage.resetLocal uri).Alike R (storage.resetLocal uri)) :
    (scenario.removeTable storage uri).Alike R (scenario.removeTable storage uri) := by
  unfold removeTable
  split_ifs
  · exact hreset.bind fun _ => alike_pure _
  · exact alike_pure _

end Scenario

variable [Engine]

/-- From related worlds, each operation on the table at an address does the same. -/
structure Operations.AreAlike (R : World → World → Prop) (storage : StorageMode) (uri : String) :
    Prop where
  record : ∀ event, (Run.record event).Alike R (Run.record event)
  append : ∀ rows partitionBy,
    (Table.append ⟨uri⟩ rows partitionBy).Alike R (Table.append ⟨uri⟩ rows partitionBy)
  delete : ∀ predicate, (Table.delete ⟨uri⟩ predicate).Alike R (Table.delete ⟨uri⟩ predicate)
  checkpoint : (Table.checkpoint ⟨uri⟩).Alike R (Table.checkpoint ⟨uri⟩)
  scan : (Table.scan ⟨uri⟩).Alike R (Table.scan ⟨uri⟩)
  resetLocal : (storage.resetLocal uri).Alike R (storage.resetLocal uri)

namespace Operations.AreAlike

theorem readAll (h : AreAlike R storage uri) :
    (Table.readAll ⟨uri⟩).Alike R (Table.readAll ⟨uri⟩) :=
  h.scan.bind fun _ => alike_pure _

theorem summary (h : AreAlike R storage uri) :
    (Table.summary ⟨uri⟩).Alike R (Table.summary ⟨uri⟩) :=
  h.scan.bind fun _ => alike_pure _

end Operations.AreAlike

/-- A step does the same in related worlds if the operations do. -/
theorem Step.alike_runAt (h : Operations.AreAlike R storage uri) (step : Step) :
    (step.runAt storage uri).Alike R (step.runAt storage uri) := by
  cases step with
  | append start count time message partitionBy =>
    exact (alike_ofExcept _).bind fun rows => (h.append rows partitionBy).bind fun _ => alike_pure _
  | delete predicate => exact (h.delete predicate).bind fun _ => alike_pure _
  | checkpoint => exact h.checkpoint.bind fun _ => alike_pure _
  | summary => exact h.summary.bind fun _ => alike_pure _
  | read => exact h.readAll.bind fun _ => alike_pure _
  | reset => exact h.resetLocal.bind fun _ => alike_pure _

namespace Scenario

theorem alike_deleteRows (h : Operations.AreAlike R storage uri) (scenario : Scenario) :
    (scenario.deleteRows ⟨uri⟩).Alike R (scenario.deleteRows ⟨uri⟩) := by
  unfold deleteRows
  split
  · exact (h.delete _).bind fun _ => alike_pure _
  · exact alike_pure _

theorem alike_writeCheckpoint (h : Operations.AreAlike R storage uri) (scenario : Scenario) :
    (scenario.writeCheckpoint ⟨uri⟩).Alike R (scenario.writeCheckpoint ⟨uri⟩) := by
  unfold writeCheckpoint
  split_ifs
  · exact h.checkpoint.bind fun _ => alike_pure _
  · exact alike_pure _

theorem alike_finish (h : Operations.AreAlike R storage uri) (scenario : Scenario)
    (appendVersions : List Nat) :
    (scenario.finish uri appendVersions).Alike R (scenario.finish uri appendVersions) :=
  (scenario.alike_deleteRows h).bind fun _ => (scenario.alike_writeCheckpoint h).bind fun _ =>
    h.summary.bind fun _ => (alike_ofExcept _).bind fun _ =>
    (h.record _).bind fun _ => alike_pure _

/-- A scenario does the same in related worlds if the operations on its table do. -/
theorem alike_run (h : Operations.AreAlike R storage uri) (scenario : Scenario) (clock : Clock)
    (huri : storage.tableUri scenario.table scenario.localRoot = .ok uri) :
    (scenario.run storage clock).Alike R (scenario.run storage clock) := by
  rw [scenario.run_of_tableUri clock huri]
  exact (h.record _).bind fun _ => (scenario.alike_removeTable h.resetLocal).bind fun _ =>
    (alike_ofExcept _).bind fun starts =>
    (scenario.alike_appendBatches (h.append · _) clock 0 starts).bind fun versions =>
    scenario.alike_finish h versions

end Scenario

end LogTable
