import Headway.Proofs.Exact
import Headway.Proofs.Planner.Seed
import Headway.Solver.Kinematic

-- What is left of the past once the controller has been off for a cycle. Such a cycle plans to stay at a state that the
-- parameters and its own input determine, and hands that state on at its own acceleration.
namespace Headway
open Scalar

theorem Recurrence.advance_steady (seed : Recurrence ℝ) :
    seed.advance seed.accel = ⟨seed.speed + 0.05 * seed.accel,seed.accel⟩ := by
  obtain ⟨speed,accel⟩ := seed
  have two : (2.0 : ℝ) = 2 := by norm_num
  simp only [advance,two,sub_self,mul_zero,add_zero,mk.injEq,and_true]
  ring

namespace Planner
section Resting
variable {σ α : Type} [Scalar α] [Solver σ α]

-- A plan that stays where it is, and what it hands on. The planner that made it has no part in either.
structure Rests (seed : Recurrence α) (plan : Plan α) (handed : Recurrence α) : Prop where
  cruise : plan.cruiseSpeed = seed.speed ∧ plan.cruiseAccel = seed.accel
  start : plan.startSpeed = seed.speed ∧ plan.startAccel = seed.accel
  target : plan.targetSpeed = seed.speed ∧ plan.targetAccel = seed.accel
  handed : handed = seed.advance seed.accel

theorem update_rests (planner : Planner σ α) {input : PlannerInput α} (released : input.control.engaged = false) :
    Rests (disabledSeed planner.params input) (planner.update input).2.1 (planner.update input).1.recurrence := by
  have profile := planner.profileOf_disengaged released
  have chosen := planner.chosenOf_disengaged released
  have plan := planner.update_plan input
  have after := planner.update_carried input
  rw [profile,chosen] at plan after
  rw [plan,after]
  exact ⟨⟨rfl,rfl⟩,⟨rfl,rfl⟩,⟨rfl,rfl⟩,rfl⟩

theorem update_source (planner : Planner σ α) {input : PlannerInput α} (released : input.control.engaged = false) :
    (planner.update input).1.source = planner.source ∧ (planner.update input).2.1.source = planner.source := by
  have chosen := planner.chosenOf_disengaged released
  have plan := planner.update_plan input
  have after := planner.update_carried input
  rw [chosen] at plan after
  rw [plan,after]
  exact ⟨rfl,rfl⟩

end Resting

theorem disabledSeed_off (params : Params ℝ) {input : PlannerInput ℝ} (off : input.control = .off) :
    disabledSeed params input = ⟨input.ego.speed,min input.ego.accel 0⟩ := by
  rw [disabledSeed,if_neg (by rw [off]; decide),lesser_min,zero_exact]

theorem disabledSeed_starting (params : Params ℝ) {input : PlannerInput ℝ} (starting : input.control = .starting) :
    disabledSeed params input = ⟨params.startSpeed,params.startAccel⟩ := if_pos starting

section Twins
variable {σ τ : Type} [Solver σ ℝ] [Solver τ ℝ]

-- Two planners in the same cycle publish the same motion and hand on the same state, and each keeps its own source.
structure Erases (left : Planner σ ℝ) (right : Planner τ ℝ) (input : PlannerInput ℝ) : Prop where
  cruise : (left.update input).2.1.cruiseSpeed = (right.update input).2.1.cruiseSpeed ∧
    (left.update input).2.1.cruiseAccel = (right.update input).2.1.cruiseAccel
  start : (left.update input).2.1.startSpeed = (right.update input).2.1.startSpeed ∧
    (left.update input).2.1.startAccel = (right.update input).2.1.startAccel
  target : (left.update input).2.1.targetSpeed = (right.update input).2.1.targetSpeed ∧
    (left.update input).2.1.targetAccel = (right.update input).2.1.targetAccel
  handed : (left.update input).1.recurrence = (right.update input).1.recurrence
  leftSource : (left.update input).1.source = left.source ∧ (left.update input).2.1.source = left.source
  rightSource : (right.update input).1.source = right.source ∧ (right.update input).2.1.source = right.source

theorem Rests.erases {left : Planner σ ℝ} {right : Planner τ ℝ} {input : PlannerInput ℝ} {seed : Recurrence ℝ}
    (rests : Rests seed (left.update input).2.1 (left.update input).1.recurrence)
    (rests' : Rests seed (right.update input).2.1 (right.update input).1.recurrence)
    (released : input.control.engaged = false) : Erases left right input where
  cruise := ⟨rests.cruise.1.trans rests'.cruise.1.symm,rests.cruise.2.trans rests'.cruise.2.symm⟩
  start := ⟨rests.start.1.trans rests'.start.1.symm,rests.start.2.trans rests'.start.2.symm⟩
  target := ⟨rests.target.1.trans rests'.target.1.symm,rests.target.2.trans rests'.target.2.symm⟩
  handed := rests.handed.trans rests'.handed.symm
  leftSource := left.update_source released
  rightSource := right.update_source released

structure Resumes (params : Params ℝ) (input : PlannerInput ℝ) (plan : Plan ℝ) : Prop where
  off : input.control = .off →
    plan.startSpeed = input.ego.speed + 0.05 * min input.ego.accel 0 ∧ plan.startAccel = min input.ego.accel 0
  starting : input.control = .starting →
    plan.startSpeed = params.startSpeed + 0.05 * params.startAccel ∧ plan.startAccel = params.startAccel

theorem resumes_of_start {params : Params ℝ} {input : PlannerInput ℝ} {plan : Plan ℝ}
    (start : (⟨plan.startSpeed,plan.startAccel⟩ : Recurrence ℝ) =
      (disabledSeed params input).advance (disabledSeed params input).accel) : Resumes params input plan := by
  rw [Recurrence.advance_steady] at start
  constructor
  · intro off
    rw [disabledSeed_off params off] at start
    exact ⟨congrArg Recurrence.speed start,congrArg Recurrence.accel start⟩
  · intro starting
    rw [disabledSeed_starting params starting] at start
    exact ⟨congrArg Recurrence.speed start,congrArg Recurrence.accel start⟩

theorem update_starts (planner : Planner σ ℝ) {input : PlannerInput ℝ} (engaged : input.control.engaged = true)
    (passes : ¬ planner.SlowsForLimit input (targetsOf planner.params input)) :
    (⟨(planner.update input).2.1.startSpeed,(planner.update input).2.1.startAccel⟩ : Recurrence ℝ) = planner.recurrence := by
  change (planner.profileOf input).seed = planner.recurrence
  rw [planner.profileOf_engaged engaged,enabledProfile_carried passes]

-- A change of parameters in between changes none of this.
theorem disengagement_erases (left : Planner σ ℝ) (right : Planner τ ℝ) (same : left.params = right.params)
    (input : PlannerInput ℝ) (released : input.control.engaged = false) :
    Erases left right input ∧
      ∀ (changes : List (Params ℝ)) (next : PlannerInput ℝ),
        let later := (left.update input).1.reconfigured changes
        next.control.engaged = true → ¬ later.SlowsForLimit next (targetsOf later.params next) →
          Resumes left.params input (later.update next).2.1 := by
  have rests := left.update_rests released
  have rests' := right.update_rests released
  rw [← same] at rests'
  refine ⟨rests.erases rests' released,?_⟩
  intro changes next later engaged passes
  have carried : later.recurrence = (left.update input).1.recurrence :=
    ((left.update input).1.reconfigured_kept changes .primary).1
  apply resumes_of_start
  rw [later.update_starts engaged passes,carried,rests.handed]

end Twins

noncomputable def onRoad (control : ControlMode) (accel : ℝ) (lead : Option (LeadTrack ℝ)) : PlannerInput ℝ where
  time := 0
  ego := { Ego.moving 20 with accel }
  radar := ⟨lead,none,[],0⟩
  map := none
  cruiseKph := 90
  control
  forceDecel := false
  laterAngle := none
  phantom := none

noncomputable def idle : Planner (Scripted ℝ) ℝ := fresh .standard ⟨[],0⟩ ⟨[],0⟩

noncomputable def pursuing : Planner (Kinematic ℝ) ℝ :=
  ((fresh .standard .start .start).update (onRoad .pid 0 (some ⟨true,10,5,5,-1,0,0,1,0⟩))).1

theorem pursuit_erased :
    pursuing.params = idle.params ∧ (onRoad .off (-2) none).control.engaged = false ∧
      Erases pursuing idle (onRoad .off (-2) none) ∧ (onRoad .pid 0 none).control.engaged = true ∧
      ¬ ((pursuing.update (onRoad .off (-2) none)).1.reconfigured []).SlowsForLimit (onRoad .pid 0 none)
        (targetsOf ((pursuing.update (onRoad .off (-2) none)).1.reconfigured []).params (onRoad .pid 0 none)) ∧
      Resumes pursuing.params (onRoad .off (-2) none)
        (((pursuing.update (onRoad .off (-2) none)).1.reconfigured []).update (onRoad .pid 0 none)).2.1 := by
  have same : pursuing.params = idle.params := rfl
  have released : (onRoad .off (-2) none).control.engaged = false := rfl
  have engaged : (onRoad .pid 0 none).control.engaged = true := rfl
  -- Without a map both limits are the same ceiling.
  have passes (later : Planner (Kinematic ℝ) ℝ) :
      ¬ later.SlowsForLimit (onRoad .pid 0 none) (targetsOf later.params (onRoad .pid 0 none)) :=
    fun slows => lt_irrefl (noCeiling : ℝ) slows.1
  obtain ⟨erases,resumes⟩ := disengagement_erases pursuing idle same (onRoad .off (-2) none) released
  exact ⟨same,released,erases,engaged,passes _,resumes [] (onRoad .pid 0 none) engaged (passes _)⟩

end Planner
end Headway
