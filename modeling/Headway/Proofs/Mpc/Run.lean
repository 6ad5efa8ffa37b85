import Headway.Proofs.Mpc.Cycle

-- An instance over a run: what may be done to it between two cycles, and what its track then stands for.
namespace Headway.Mpc
open Scalar
variable {σ α : Type} [Scalar α]

inductive Step (α : Type) where
  | reseed (speed accel : α)
  | adopt (params : MpcParams α)
  | cycle (input : MpcInput α)

-- The past only remembers, newest cycle first: no step reads it.
structure Run (σ α : Type) where
  mpc : Mpc σ α
  past : List (MpcInput α × MpcReport α)

def lastTracked : List (MpcInput α × MpcReport α) → Option α
  | [] => none
  | (input,report) :: _ => if report.reset.isSome then none else (leadOf input).map (·.distance)

namespace Run
variable [Solver σ α]

def start (id : Nat) (solver : σ) (params : MpcParams α) : Run σ α := ⟨.start id solver params,[]⟩

def step (run : Run σ α) : Step α → Run σ α
  | .reseed speed accel => { run with mpc := run.mpc.setSeed speed accel }
  | .adopt params => { run with mpc := { run.mpc with params } }
  | .cycle input => ⟨(run.mpc.update input).1,(input,(run.mpc.update input).2) :: run.past⟩

def through (run : Run σ α) (steps : List (Step α)) : Run σ α := steps.foldl step run

theorem through_keeps (property : Run σ α → Prop) {run : Run σ α} (initial : property run)
    (kept : ∀ run step, property run → property (Run.step run step)) (steps : List (Step α)) :
    property (run.through steps) := by
  induction steps generalizing run with
  | nil => exact initial
  | cons step rest ih => exact ih (kept run step initial)

theorem step_track (run : Run σ α) (step : Step α) (tracked : run.mpc.track = lastTracked run.past) :
    (run.step step).mpc.track = lastTracked (run.step step).past := by
  cases step with
  | reseed speed accel => exact tracked
  | adopt params => exact tracked
  | cycle input => exact update_track run.mpc input

theorem through_track (id : Nat) (solver : σ) (params : MpcParams α) (steps : List (Step α)) :
    ((start id solver params).through steps).mpc.track =
      lastTracked ((start id solver params).through steps).past :=
  through_keeps (fun run => run.mpc.track = lastTracked run.past) rfl step_track steps

end Run
end Headway.Mpc
