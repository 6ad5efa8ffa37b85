import Headway.Proofs.Mpc.Calls
import Headway.Proofs.Planner.Simulation

-- Both instances solve from the seed of the cruise side. A start over writes a seed that no solve ever sees.
namespace Headway.Planner
open Scalar
variable {σ α : Type} [Scalar α]

def StartsAt (planner : Planner σ α) (input : PlannerInput α) (speed : α) : Prop :=
  match input.control with
  | .pid | .stopping =>
      let targets := targetsOf planner.params input
      planner.recurrence.speed = speed ∧
        (planner.SlowsForLimit input targets →
          limitAheadDecel input.ego.speed targets.limitAhead targets.aheadDistance = 0.0) ∧
        (¬ planner.SlowsForLimit input targets → planner.recurrence.accel = 0.0)
  | .starting => planner.params.startSpeed = speed ∧ planner.params.startAccel = 0.0
  | .off => input.ego.speed = speed ∧ lesser input.ego.accel 0.0 = 0.0

theorem enabledProfile_startsAt (planner : Planner σ α) (input : PlannerInput α)
    (targets : SpeedTargets α) (speed : α) :
    (planner.enabledProfile input targets).seed.speed = speed ∧
        (planner.enabledProfile input targets).seed.accel = 0.0 ↔
      planner.recurrence.speed = speed ∧
        (planner.SlowsForLimit input targets →
          limitAheadDecel input.ego.speed targets.limitAhead targets.aheadDistance = 0.0) ∧
        (¬ planner.SlowsForLimit input targets → planner.recurrence.accel = 0.0) := by
  by_cases slows : planner.SlowsForLimit input targets
  · rw [enabledProfile_pinned slows]
    simp [slows]
  · rw [enabledProfile_carried slows]
    simp [slows]

theorem startsAt_exact (planner : Planner σ α) (input : PlannerInput α) (speed : α) :
    (planner.profileOf input).seed.speed = speed ∧ (planner.profileOf input).seed.accel = 0.0 ↔
      planner.StartsAt input speed := by
  unfold StartsAt
  cases control : input.control with
  | pid =>
    rw [planner.profileOf_engaged (by rw [control]; rfl)]
    exact planner.enabledProfile_startsAt input _ speed
  | stopping =>
    rw [planner.profileOf_engaged (by rw [control]; rfl)]
    exact planner.enabledProfile_startsAt input _ speed
  | off =>
    rw [planner.profileOf_disengaged (by rw [control]; rfl),disabledSeed,control]
    rfl
  | starting =>
    rw [planner.profileOf_disengaged (by rw [control]; rfl),disabledSeed,control]
    rfl

variable [Solver σ α]

def reconfigured (planner : Planner σ α) (changes : List (Params α)) : Planner σ α :=
  planner.through (changes.map .reconfigure)

theorem reconfigured_kept (planner : Planner σ α) (changes : List (Params α)) (side : Side) :
    (planner.reconfigured changes).recurrence = planner.recurrence ∧
      ((planner.reconfigured changes).mpc side).solver = (planner.mpc side).solver := by
  refine through_keeps (fun later => later.recurrence = planner.recurrence ∧
    (later.mpc side).solver = (planner.mpc side).solver) ⟨rfl,rfl⟩ ?_
  intro later step member kept
  obtain ⟨params,_,rfl⟩ := List.mem_map.mp member
  exact ⟨(later.adopt_kept params).2.1.trans kept.1,(later.adopt_solver params side).trans kept.2⟩

theorem update_seed (planner : Planner (Recorder σ α) α) (input : PlannerInput α) (side : Side) :
    ∃ problem,
      solves ((planner.update input).1.mpc side).solver.calls =
        solves (planner.mpc side).solver.calls ++ [problem] ∧
      problem.seed.egoSpeed = (planner.profileOf input).seed.speed ∧
      problem.seed.egoAccel = (planner.profileOf input).seed.accel := by
  have seed := Mpc.prepared_seed (planner.seeded input (planner.mpc side)) (inputOf input side)
  refine ⟨(planner.seeded input (planner.mpc side)).posed (inputOf input side),?_,
    congrArg Instant.egoSpeed seed,congrArg Instant.egoAccel seed⟩
  rw [update_mpc]
  exact Mpc.update_solves (planner.seeded input (planner.mpc side)) (inputOf input side)

-- Two cycles in a row of a recorded planner in any state, told for one instance.
structure Reseeds (planner : Planner (Recorder σ α) α) (side : Side) (input next : PlannerInput α)
    (changes : List (Params α)) : Prop where
  alone : ((planner.seen Recorder.solver).update input).1.reconfigured changes =
    ((planner.update input).1.reconfigured changes).seen Recorder.solver
  written : ((planner.update input).1.mpc side).seed.egoSpeed = input.ego.speed ∧
    ((planner.update input).1.mpc side).seed.egoAccel = 0.0
  carried : ((planner.update input).1.reconfigured changes).recurrence =
    (⟨(planner.update input).2.1.startSpeed,(planner.update input).2.1.startAccel⟩ : Recurrence α).advance
      (planner.update input).2.1.targetAccel
  solve : ∃ problem,
    solves ((((planner.update input).1.reconfigured changes).update next).1.mpc side).solver.calls =
      solves ((planner.update input).1.mpc side).solver.calls ++ [problem] ∧
    (problem.seed.egoSpeed = input.ego.speed ∧ problem.seed.egoAccel = 0.0 ↔
      ((planner.update input).1.reconfigured changes).StartsAt next input.ego.speed)

theorem reset_reseeds (planner : Planner (Recorder σ α) α) (side : Side) (input next : PlannerInput α)
    (changes : List (Params α)) (reset : (reportOf (planner.update input).2.2 side).reset.isSome = true) :
    planner.Reseeds side input next changes := by
  obtain ⟨recurrence,solver⟩ := (planner.update input).1.reconfigured_kept changes side
  obtain ⟨problem,asked,speed,accel⟩ := ((planner.update input).1.reconfigured changes).update_seed next side
  refine ⟨?_,?_,recurrence,problem,?_,?_⟩
  · rw [update_seen Recorder.simulates]
    exact through_seen Recorder.simulates _ (changes.map .reconfigure)
  · rw [update_report] at reset
    rw [update_mpc,Mpc.update_state,reset,if_pos rfl]
    exact ⟨congrArg Ego.speed (inputOf_ego input side),rfl⟩
  · rw [← solver]
    exact asked
  · rw [speed,accel]
    exact startsAt_exact _ next input.ego.speed

-- The ego is at twenty metres per second, and the solve after the start over begins below one.
def corrupt : Solution Float :=
  ⟨{ Trajectory.ramp 20.0 0.0 50.0 with
    egoSpeed := (Trajectory.ramp 20.0 0.0 50.0).egoSpeed.set 3 (0.0 / 0.0) },3⟩

def corrupted : Planner (Recorder (Scripted Float) Float) Float :=
  (scripted [.ok corrupt] []).seen Recorder.start

theorem reset_seed_lost :
    start Params.standard (⟨[.ok corrupt],0.001⟩ : Scripted Float) ⟨[],0.001⟩ = .ok (scripted [.ok corrupt] []) ∧
      (corrupted.update (openRoad 20.0)).2.2.mpc1.reset.isSome = true ∧
      (solves ((corrupted.update (openRoad 20.0)).1.update (openRoad 20.0)).1.mpc1.solver.calls).getLast?.any
        (fun problem => problem.seed.egoSpeed < 1.0) = true :=
  ⟨scripted_start [.ok corrupt] [],by decide +kernel,by decide +kernel⟩

theorem corrupt_reseeds :
    (reportOf (corrupted.update (openRoad 20.0)).2.2 .primary).reset.isSome = true ∧
      corrupted.Reseeds .primary (openRoad 20.0) (openRoad 20.0) [] :=
  ⟨by decide +kernel,reset_reseeds corrupted .primary (openRoad 20.0) (openRoad 20.0) [] (by decide +kernel)⟩

end Headway.Planner
