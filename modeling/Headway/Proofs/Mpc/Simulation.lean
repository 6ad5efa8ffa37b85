import Headway.Proofs.Mpc.Run
import Headway.Solver.Recorder

-- An instance sees of its solver only what the four operations give back. Two solvers that answer alike,
-- a recorder and what it records above all, drive the instance through the same cycles.
namespace Headway
open Scalar
variable {σ τ α : Type} [Solver σ α] [Solver τ α]

structure Simulates (view : σ → τ) : Prop where
  restart : ∀ weights solver, view (Solver.restart weights solver) = Solver.restart weights (view solver)
  reweigh : ∀ weights solver, view (Solver.reweigh weights solver) = Solver.reweigh weights (view solver)
  prime : ∀ speed lead decay solver,
    view (Solver.prime speed lead decay solver) = Solver.prime speed lead decay (view solver)
  solve : ∀ problem solver, Solver.solve problem (view solver) =
    ((Solver.solve problem solver).1,view (Solver.solve problem solver).2)

theorem Recorder.simulates : Simulates (Recorder.solver : Recorder σ α → σ) :=
  ⟨fun _ _ => rfl,fun _ _ => rfl,fun _ _ _ _ => rfl,fun _ _ => rfl⟩

def Mpc.seen (view : σ → τ) (mpc : Mpc σ α) : Mpc τ α := { mpc with solver := view mpc.solver }

namespace Mpc
variable [Scalar α] {view : σ → τ} (simulates : Simulates view)
include simulates

theorem start_seen (id : Nat) (solver : σ) (params : MpcParams α) :
    (start id (view solver) params : Mpc τ α) = (start id solver params).seen view := by
  simp only [start,seen,simulates.restart]

theorem follow_seen (mpc : Mpc σ α) (input : MpcInput α) :
    (mpc.seen view).follow input.ego.speed (followed input) =
      (mpc.follow input.ego.speed (followed input)).seen view := by
  cases followed input with
  | none => rfl
  | some lead =>
    obtain ⟨lead,decay⟩ := lead
    have primed : (if (mpc.seen view).isNewLead lead then
          Solver.prime (mpc.seen view).speed lead decay (mpc.seen view).solver else (mpc.seen view).solver) =
        view (if mpc.isNewLead lead then Solver.prime mpc.speed lead decay mpc.solver else mpc.solver) := by
      rw [apply_ite view,simulates.prime]
      rfl
    unfold follow
    dsimp only
    rw [primed]
    rfl

theorem applyWeight_seen (mpc : Mpc σ α) (weight : α) :
    (mpc.seen view).applyWeight weight = (mpc.applyWeight weight).seen view := by
  have same : (mpc.seen view).knows weight = mpc.knows weight := rfl
  rw [applyWeight_frame,applyWeight_frame,same]
  cases mpc.knows weight with
  | true => rfl
  | false =>
    change ({ mpc with solver := Solver.reweigh _ (view mpc.solver), weight := _ } : Mpc τ α) = _
    rw [← simulates.reweigh]
    rfl

theorem gapFor_seen (mpc : Mpc σ α) (input : MpcInput α) :
    (mpc.seen view).gapFor input = mpc.gapFor input := by
  unfold gapFor
  rw [follow_seen simulates]
  rfl

theorem weightFor_seen (mpc : Mpc σ α) (input : MpcInput α) :
    (mpc.seen view).weightFor input = mpc.weightFor input := by
  unfold weightFor
  rw [gapFor_seen simulates]

theorem prepared_seen (mpc : Mpc σ α) (input : MpcInput α) :
    (mpc.seen view).prepared input = (mpc.prepared input).seen view := by
  unfold prepared
  rw [follow_seen simulates,gapFor_seen simulates,weightFor_seen simulates]
  exact applyWeight_seen simulates
    { mpc.follow input.ego.speed (followed input) with gap := mpc.gapFor input } (mpc.weightFor input)

theorem answered_seen (mpc : Mpc σ α) (input : MpcInput α) :
    (mpc.seen view).answered input = ((mpc.answered input).1,view (mpc.answered input).2) := by
  have same : (mpc.seen view).posed input = mpc.posed input := by
    rw [posed,posed,prepared_seen simulates,gapFor_seen simulates]
    rfl
  unfold answered
  rw [same,prepared_seen simulates]
  exact simulates.solve _ _

theorem judged_seen (mpc : Mpc σ α) (input : MpcInput α) :
    (mpc.seen view).judged input = mpc.judged input := by
  unfold judged
  rw [answered_seen simulates,prepared_seen simulates]
  rfl

omit simulates [Solver σ α] [Solver τ α] in
theorem settle_seen (mpc : Mpc σ α)
    (outcome : Except (SolverFault α) (Solution α × Instant α × Instant α)) :
    (mpc.seen view).settle outcome = ((mpc.settle outcome).1.seen view,(mpc.settle outcome).2) := by
  cases outcome with
  | error fault => rfl
  | ok answer => rfl

theorem settled_seen (mpc : Mpc σ α) (input : MpcInput α) :
    (mpc.seen view).settled input = ((mpc.settled input).1.seen view,(mpc.settled input).2) := by
  unfold settled
  rw [judged_seen simulates,answered_seen simulates,prepared_seen simulates]
  exact settle_seen { mpc.prepared input with solver := (mpc.answered input).2 } _

theorem restart_seen (mpc : Mpc σ α) (input : MpcInput α) :
    (mpc.seen view).restart input = (mpc.restart input).seen view := by
  unfold restart seen
  rw [← simulates.restart]
  rfl

theorem finished_seen (mpc : Mpc σ α) (input : MpcInput α) :
    (mpc.seen view).finished input = (mpc.finished input).seen view := by
  unfold finished
  rw [settled_seen simulates]
  dsimp only
  split
  · exact restart_seen simulates _ _
  · rfl

theorem update_seen (mpc : Mpc σ α) (input : MpcInput α) :
    (mpc.seen view).update input = ((mpc.update input).1.seen view,(mpc.update input).2) := by
  rw [update_exact,update_exact,finished_seen simulates,gapFor_seen simulates,weightFor_seen simulates,
    judged_seen simulates,answered_seen simulates,settled_seen simulates]
  rfl

end Mpc

def Mpc.Run.seen (view : σ → τ) (run : Mpc.Run σ α) : Mpc.Run τ α := ⟨run.mpc.seen view,run.past⟩

namespace Mpc.Run
variable [Scalar α] {view : σ → τ} (simulates : Simulates view)
include simulates

theorem step_seen (run : Run σ α) (step : Step α) :
    (run.seen view).step step = (run.step step).seen view := by
  cases step with
  | reseed speed accel => rfl
  | adopt params => rfl
  | cycle input =>
    change (⟨((run.mpc.seen view).update input).1,
      (input,((run.mpc.seen view).update input).2) :: run.past⟩ : Run τ α) = _
    rw [update_seen simulates]
    rfl

theorem through_seen (run : Run σ α) (steps : List (Step α)) :
    (run.seen view).through steps = (run.through steps).seen view := by
  induction steps generalizing run with
  | nil => rfl
  | cons step rest ih =>
    change ((run.seen view).step step).through rest = _
    rw [step_seen simulates]
    exact ih (run.step step)

theorem start_seen (id : Nat) (solver : σ) (params : MpcParams α) :
    (start id (view solver) params : Run τ α) = (start id solver params).seen view := by
  unfold start
  rw [Mpc.start_seen simulates]
  rfl

end Mpc.Run

theorem Mpc.Run.recorded_seen [Scalar α] (id : Nat) (solver : σ) (params : MpcParams α)
    (steps : List (Mpc.Step α)) :
    ((Mpc.Run.start id (Recorder.start solver : Recorder σ α) params).through steps).seen Recorder.solver =
      (Mpc.Run.start id solver params).through steps := by
  rw [← Mpc.Run.through_seen Recorder.simulates,← Mpc.Run.start_seen Recorder.simulates]
  rfl

end Headway
