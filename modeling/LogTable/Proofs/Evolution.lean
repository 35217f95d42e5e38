import LogTable.Proofs.Run
import LogTable.Session
import Mathlib.Tactic.SplitIfs

/-!
# Evolutions

An evolution is a relation between an earlier and a later world that is reflexive and transitive
and does not look at the journal.  A run respects it if it relates the world that the run finds to
the one that it leaves, whether the run succeeds or fails.  Steps and scenarios are made of the
operations of one table and its removal (`Operations.Respect`), so an evolution that these respect
is respected by every step (`Step.respects_runAt`) and every scenario (`Scenario.respects_run`).
-/

namespace LogTable

open Predicate

/-- A relation between earlier and later worlds. -/
structure IsEvolution (R : World → World → Prop) : Prop where
  refl : ∀ world, R world world
  trans : ∀ {first second third}, R first second → R second third → R first third
  record : ∀ (world : World) (event : Event),
    R world { world with journal := world.journal ++ [event] }

namespace Run

variable {α β : Type} {R : World → World → Prop}

/-- The run leads from any world to a later one. -/
def Respects (R : World → World → Prop) (run : Run α) : Prop :=
  ∀ world, R world (run.start world).2

/-- What a run respects holds of the world that it leaves, whether it succeeds or fails. -/
theorem Respects.ensures {run : Run α} (h : run.Respects R) (world : World) :
    run.Ensures world (fun _ after => R world after) fun _ after => R world after := by
  have hrun := h world
  unfold Ensures
  split <;> rename_i heq <;> rw [heq] at hrun <;> exact hrun

/-- A run respects what it ensures in both cases. -/
theorem respects_of_ensures {run : Run α}
    (h : ∀ world, run.Ensures world (fun _ after => R world after) fun _ after => R world after) :
    run.Respects R :=
  fun world => (h world).after

theorem Respects.bind_of_trans {run : Run α} {f : α → Run β}
    (htrans : ∀ {first second third}, R first second → R second third → R first third)
    (h : run.Respects R) (hf : ∀ a, (f a).Respects R) : (run >>= f).Respects R := by
  intro world
  have hrun := h world
  rw [start_bind]
  cases hstart : run.start world with
  | mk answer middle =>
    rw [hstart] at hrun
    cases answer with
    | error failure => exact hrun
    | ok a => exact htrans hrun (hf a middle)

theorem Respects.bind {run : Run α} {f : α → Run β} (hR : IsEvolution R) (h : run.Respects R)
    (hf : ∀ a, (f a).Respects R) : (run >>= f).Respects R :=
  h.bind_of_trans hR.trans hf

theorem respects_pure (hR : IsEvolution R) (a : α) : (pure a : Run α).Respects R :=
  hR.refl

theorem respects_throw (hR : IsEvolution R) (failure : Failure) :
    (throw failure : Run α).Respects R :=
  hR.refl

theorem respects_record (hR : IsEvolution R) (event : Event) : (record event).Respects R :=
  fun world => hR.record world event

theorem respects_ofExcept (hR : IsEvolution R) (answer : Except Failure α) :
    (ofExcept answer).Respects R := by
  cases answer with
  | ok a => exact respects_pure hR a
  | error failure => exact respects_throw hR failure

end Run

variable {R : World → World → Prop} {storage : StorageMode} {uri : String}

namespace Scenario

/-- Appending batches respects what the appends respect. -/
theorem respects_appendBatches (hR : IsEvolution R)
    (happend : ∀ rows partitionBy, (Table.append ⟨uri⟩ rows partitionBy).Respects R)
    (scenario : Scenario) (clock : Clock) (b : Nat) (starts : List Int64) :
    (scenario.appendBatches ⟨uri⟩ clock b starts).Respects R := by
  induction starts generalizing b with
  | nil => exact Run.respects_pure hR _
  | cons start starts ih =>
    exact (Run.respects_ofExcept hR _).bind hR fun rows =>
      (happend rows _).bind hR fun _ =>
        (ih (b + 1)).bind hR fun _ => Run.respects_pure hR _

theorem respects_removeTable (hR : IsEvolution R) (hreset : (storage.resetLocal uri).Respects R)
    (scenario : Scenario) : (scenario.removeTable storage uri).Respects R := by
  unfold removeTable
  split_ifs
  · exact hreset.bind hR fun _ => Run.respects_pure hR _
  · exact Run.respects_pure hR _

end Scenario

variable [Engine]

/-- The operations on the table at an address respect an evolution. -/
structure Operations.Respect (R : World → World → Prop) (storage : StorageMode) (uri : String) :
    Prop where
  evolution : IsEvolution R
  append : ∀ rows partitionBy, (Table.append ⟨uri⟩ rows partitionBy).Respects R
  delete : ∀ predicate, (Table.delete ⟨uri⟩ predicate).Respects R
  checkpoint : (Table.checkpoint ⟨uri⟩).Respects R
  scan : (Table.scan ⟨uri⟩).Respects R
  resetLocal : (storage.resetLocal uri).Respects R

namespace Operations.Respect

theorem readAll (h : Respect R storage uri) : (Table.readAll ⟨uri⟩).Respects R :=
  h.scan.bind h.evolution fun _ => Run.respects_pure h.evolution _

theorem summary (h : Respect R storage uri) : (Table.summary ⟨uri⟩).Respects R :=
  h.scan.bind h.evolution fun _ => Run.respects_pure h.evolution _

end Operations.Respect

/-- A step respects what the operations respect. -/
theorem Step.respects_runAt (h : Operations.Respect R storage uri) (step : Step) :
    (step.runAt storage uri).Respects R := by
  have hpure : ∀ answer : Answer, (pure answer : Run Answer).Respects R :=
    fun answer => Run.respects_pure h.evolution answer
  cases step with
  | append start count time message partitionBy =>
    exact (Run.respects_ofExcept h.evolution _).bind h.evolution fun rows =>
      (h.append rows partitionBy).bind h.evolution fun _ => hpure _
  | delete predicate => exact (h.delete predicate).bind h.evolution fun _ => hpure _
  | checkpoint => exact h.checkpoint.bind h.evolution fun _ => hpure _
  | summary => exact h.summary.bind h.evolution fun _ => hpure _
  | read => exact h.readAll.bind h.evolution fun _ => hpure _
  | reset => exact h.resetLocal.bind h.evolution fun _ => hpure _

namespace Scenario

theorem respects_deleteRows (h : Operations.Respect R storage uri) (scenario : Scenario) :
    (scenario.deleteRows ⟨uri⟩).Respects R := by
  unfold deleteRows
  split
  · exact (h.delete _).bind h.evolution fun _ => Run.respects_pure h.evolution _
  · exact Run.respects_pure h.evolution _

theorem respects_writeCheckpoint (h : Operations.Respect R storage uri) (scenario : Scenario) :
    (scenario.writeCheckpoint ⟨uri⟩).Respects R := by
  unfold writeCheckpoint
  split_ifs
  · exact h.checkpoint.bind h.evolution fun _ => Run.respects_pure h.evolution _
  · exact Run.respects_pure h.evolution _

/-- What a scenario does up to its last append, with the versions of the appends. -/
def load (scenario : Scenario) (storage : StorageMode) (uri : String) (clock : Clock) :
    Run (List Nat) := do
  Run.record (.storageSelected uri storage.redactedOptions)
  scenario.removeTable storage uri
  let starts ← Run.ofExcept (scenario.plan.starts.mapError Failure.abort)
  scenario.appendBatches ⟨uri⟩ clock 0 starts

/-- What a scenario does after its appends. -/
def finish (scenario : Scenario) (uri : String) (appendVersions : List Nat) :
    Run ScenarioReport := do
  let rowsDeleted ← scenario.deleteRows ⟨uri⟩
  let checkpointVersion ← scenario.writeCheckpoint ⟨uri⟩
  let summary ← Table.summary ⟨uri⟩
  let rowsWritten ← Run.ofExcept (scenario.plan.totalRows.mapError Failure.abort)
  Run.record (.tableSummary uri summary.version rowsWritten summary.rows summary.files)
  return { uri, appendVersions, rowsDeleted, checkpointVersion, summary }

/-- A scenario with an address removes the table, appends its batches and finishes. -/
theorem run_of_tableUri (scenario : Scenario) (clock : Clock)
    (huri : storage.tableUri scenario.table scenario.localRoot = .ok uri) :
    scenario.run storage clock = (do
      Run.record (.storageSelected uri storage.redactedOptions)
      scenario.removeTable storage uri
      let starts ← Run.ofExcept (scenario.plan.starts.mapError Failure.abort)
      scenario.appendBatches ⟨uri⟩ clock 0 starts >>= scenario.finish uri) := by
  rw [run, huri, Except.mapError, Run.ofExcept_ok, pure_bind]
  rfl

theorem run_eq_load_bind (scenario : Scenario) (clock : Clock)
    (huri : storage.tableUri scenario.table scenario.localRoot = .ok uri) :
    scenario.run storage clock = scenario.load storage uri clock >>= scenario.finish uri := by
  rw [scenario.run_of_tableUri clock huri, load]
  simp only [bind_assoc]

theorem respects_load (h : Operations.Respect R storage uri) (scenario : Scenario)
    (clock : Clock) : (scenario.load storage uri clock).Respects R :=
  (Run.respects_record h.evolution _).bind h.evolution fun _ =>
    (scenario.respects_removeTable h.evolution h.resetLocal).bind h.evolution fun _ =>
    (Run.respects_ofExcept h.evolution _).bind h.evolution fun starts =>
    scenario.respects_appendBatches h.evolution h.append clock 0 starts

theorem respects_finish (h : Operations.Respect R storage uri) (scenario : Scenario)
    (appendVersions : List Nat) : (scenario.finish uri appendVersions).Respects R :=
  (scenario.respects_deleteRows h).bind h.evolution fun _ =>
    (scenario.respects_writeCheckpoint h).bind h.evolution fun _ =>
    h.summary.bind h.evolution fun _ =>
    (Run.respects_ofExcept h.evolution _).bind h.evolution fun _ =>
    (Run.respects_record h.evolution _).bind h.evolution fun _ => Run.respects_pure h.evolution _

/-- A scenario respects what the operations on its table respect. -/
theorem respects_run (h : Operations.Respect R storage uri) (scenario : Scenario) (clock : Clock)
    (huri : storage.tableUri scenario.table scenario.localRoot = .ok uri) :
    (scenario.run storage clock).Respects R := by
  rw [scenario.run_eq_load_bind clock huri]
  exact (scenario.respects_load h clock).bind h.evolution fun _ => scenario.respects_finish h _

end Scenario

end LogTable
