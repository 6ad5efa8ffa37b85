import Headway.Proofs.Planner.Arbitration
import Headway.Proofs.Planner.Limits
import Headway.Proofs.Planner.Run

-- How long a bad reading is remembered: from the speed and acceleration that are carried on no number is ever made
-- again.
namespace Headway
open Scalar Double

namespace Recurrence
variable {seed : Recurrence Float} {target : Float}

def share : Float := 0.05 / 0.2

theorem advance_accel (seed : Recurrence Float) (target : Float) :
    (seed.advance target).accel = seed.accel + share * (target - seed.accel) := rfl

theorem advance_speed (seed : Recurrence Float) (target : Float) : (seed.advance target).speed =
    seed.speed + 0.05 * ((seed.advance target).accel + seed.accel) / 2.0 := rfl

theorem advance_accel_number (finite : seed.accel.isFinite = true) (number : target.isNaN = false) :
    (seed.advance target).accel.isNaN = false := by
  rw [advance_accel]
  exact add_number finite (scaled_number (sub_number number finite) (by decide) (by decide))

theorem advance_speed_number (finite : seed.speed.isFinite = true) (finite' : seed.accel.isFinite = true)
    (number : target.isNaN = false) : (seed.advance target).speed.isNaN = false := by
  have sum : ((seed.advance target).accel + seed.accel).isNaN = false :=
    add_finite_number (advance_accel_number finite' number) finite'
  have gained := scaled_number sum (by decide : (0.05 : Float).isFinite = true) (by decide)
  rw [advance_speed]
  exact add_number finite (div_number gained (by decide) (by decide))

-- A difference from an infinity is that infinity the other way round, and the two cancel in the sum.
theorem finite_of_advance (number : (seed.advance target).accel.isNaN = false) : seed.accel.isFinite = true := by
  rw [advance_accel] at number
  obtain ⟨own,change⟩ := numbers_of_add number
  have apart : (target - seed.accel).isNaN = false := (numbers_of_mul change).2
  have aim : target.isNaN = false := (numbers_of_sub apart).1
  rcases number_cases own with finite | ⟨s,endless⟩
  · exact finite
  · rcases endless.subtracted_from aim with opposite | missing
    · have scaled : Endless (-s) (share * (target - seed.accel)) := by
        rw [mul_swap]
        exact opposite.mul (by decide) (value_pos (by decide) (by decide))
      rw [endless.opposed scaled] at number
      cases number
    · rw [missing] at apart
      cases apart

theorem numbers_of_advance (number : (seed.advance target).speed.isNaN = false) :
    seed.speed.isNaN = false ∧ seed.accel.isFinite = true := by
  rw [advance_speed] at number
  obtain ⟨speed,gained⟩ := numbers_of_add number
  have sum : ((seed.advance target).accel + seed.accel).isNaN = false := (numbers_of_mul (numbers_of_div gained).1).2
  exact ⟨speed,finite_of_advance (numbers_of_add sum).1⟩

end Recurrence

theorem Mpc.Backed.accel_number {σ : Type} {mpc : Mpc σ Float} {report : MpcReport Float} {speed accel : Float}
    (backed : mpc.Backed report speed accel) : accel.isNaN = false := by
  obtain ⟨next,there,_,rfl⟩ := backed.next
  have member := List.mem_of_getElem? (Trajectory.instant?_exact.mp there).2.2.1
  exact backed.sound.numbers _ (List.mem_append_right _ member)

section Published
variable {σ : Type} {after : Planner σ Float} {plan : Plan Float} {report : PlannerReport Float}

theorem Arbitrated.accel_number (arbitrated : Arbitrated after plan report) (led : plan.source ≠ .cruise) :
    plan.targetAccel.isNaN = false := by
  cases source : plan.source with
  | cruise => exact absurd source led
  | mpc1 => exact (arbitrated.primary source).accel_number
  | mpc2 => exact (arbitrated.secondary source).accel_number

theorem Arbitrated.accel_cruise (arbitrated : Arbitrated after plan report) (led : plan.source = .cruise) :
    plan.targetAccel = plan.cruiseAccel :=
  congrArg Candidate.accel (arbitrated.alone _ .cruise led.symm).symm

end Published

namespace Planner
variable {σ : Type} [Solver σ Float] (planner : Planner σ Float) (input : PlannerInput Float)

-- What an engaged cycle is left with by the cycles before it, and what it leaves to the next.
structure Recalls : Prop where
  speed : (planner.update input).2.1.startSpeed = planner.recurrence.speed
  accel : ¬ planner.SlowsForLimit input (targetsOf planner.params input) →
    (planner.update input).2.1.startAccel = planner.recurrence.accel
  pinned : planner.SlowsForLimit input (targetsOf planner.params input) →
    (planner.update input).2.1.startAccel.isFinite = true
  target : (planner.update input).2.1.startAccel.isFinite = true →
    (planner.update input).2.1.targetAccel.isNaN = false
  missing : (planner.update input).2.1.startAccel.isNaN = true →
    ((planner.update input).2.1.targetAccel.isNaN = true ↔ (planner.update input).2.1.source = .cruise)
  washed : (planner.update input).2.1.startSpeed.isFinite = true →
    (planner.update input).2.1.startAccel.isFinite = true →
    (planner.update input).1.recurrence.speed.isNaN = false ∧
      (planner.update input).1.recurrence.accel.isNaN = false
  lasting : (planner.update input).1.recurrence.speed.isNaN = false →
    (planner.update input).2.1.startSpeed.isNaN = false ∧ (planner.update input).2.1.startAccel.isFinite = true

variable {input}

theorem update_recurrence : (planner.update input).1.recurrence =
    (⟨(planner.update input).2.1.startSpeed,(planner.update input).2.1.startAccel⟩ : Recurrence Float).advance
      (planner.update input).2.1.targetAccel := rfl

omit [Solver σ Float] in
theorem pinned_finite {targets : SpeedTargets Float} (slows : planner.SlowsForLimit input targets) :
    (planner.enabledProfile input targets).seed.accel.isFinite = true := by
  have bounds := limitAheadDecel_between input.ego.speed targets.limitAhead targets.aheadDistance
  rw [enabledProfile_pinned slows]
  exact finite_of_between bounds.1 bounds.2 (by decide) (by decide)

omit [Solver σ Float] in
theorem enabledProfile_accel (targets : SpeedTargets Float) (real : input.ego.speed.isFinite = true) :
    ((planner.enabledProfile input targets).seed.accel.isFinite = true →
        (planner.enabledProfile input targets).accel.isNaN = false) ∧
      ((planner.enabledProfile input targets).seed.accel.isNaN = true →
        (planner.enabledProfile input targets).accel.isNaN = true) := by
  obtain ⟨_,_,_,accel⟩ := planner.enabledProfile_made input targets
  rw [accel]
  constructor
  · intro finite
    exact smoothSpeed_number (planner.limitsOf_smoothable input targets real) finite (by decide) (by decide)
  · intro missing
    exact smoothSpeed_missing missing (by decide)

theorem update_recalls (engaged : input.control.engaged = true) (real : input.ego.speed.isFinite = true) :
    planner.Recalls input := by
  have arbitrated := update_publishes_slowest planner input engaged
  have accel := planner.enabledProfile_accel (targetsOf planner.params input) real
  have seed := planner.profileOf_engaged engaged
  rw [← seed] at accel
  have target (finite : (planner.update input).2.1.startAccel.isFinite = true) :
      (planner.update input).2.1.targetAccel.isNaN = false := by
    by_cases led : (planner.update input).2.1.source = .cruise
    · rw [arbitrated.accel_cruise led]
      exact accel.1 finite
    · exact arbitrated.accel_number led
  refine ⟨?_,?_,?_,target,?_,?_,?_⟩
  · exact (congrArg (·.seed.speed) seed).trans (planner.enabledProfile_speed input _)
  · intro passes
    exact (congrArg (·.seed.accel) seed).trans (congrArg Recurrence.accel (enabledProfile_carried passes))
  · intro slows
    change (planner.profileOf input).seed.accel.isFinite = true
    rw [seed]
    exact planner.pinned_finite slows
  · intro missing
    constructor
    · intro lost
      apply Classical.byContradiction
      intro led
      rw [arbitrated.accel_number led] at lost
      cases lost
    · intro led
      rw [arbitrated.accel_cruise led]
      exact accel.2 missing
  · intro speed finite
    rw [update_recurrence]
    exact ⟨Recurrence.advance_speed_number speed finite (target finite),
      Recurrence.advance_accel_number finite (target finite)⟩
  · intro number
    rw [update_recurrence] at number
    exact Recurrence.numbers_of_advance number

def Step.Engaged {α : Type} : Step α → Prop
  | .reconfigure _ => True
  | .cycle input => input.control.engaged = true

theorem update_missing (engaged : input.control.engaged = true) (missing : planner.recurrence.speed.isNaN = true) :
    (planner.update input).1.recurrence.speed.isNaN = true := by
  have seed := planner.enabledProfile_speed input (targetsOf planner.params input)
  rw [← planner.profileOf_engaged engaged] at seed
  apply Classical.byContradiction
  intro number
  have start := (Recurrence.numbers_of_advance (Bool.eq_false_of_not_eq_true number)).1
  change (planner.profileOf input).seed.speed.isNaN = false at start
  rw [seed,missing] at start
  cases start

theorem through_missing {steps : List (Step Float)} (engaged : ∀ step ∈ steps, step.Engaged)
    (missing : planner.recurrence.speed.isNaN = true) : (planner.through steps).recurrence.speed.isNaN = true := by
  refine through_keeps (fun later : Planner σ Float => later.recurrence.speed.isNaN = true) missing ?_
  intro later step member missing
  cases step with
  | reconfigure params =>
    rw [Planner.step,(later.adopt_kept params).2.1]
    exact missing
  | cycle input => exact later.update_missing (engaged _ member) missing

theorem update_off (off : input.control = .off) (speed : input.ego.speed.isFinite = true)
    (accel : input.ego.accel.isFinite = true) : (planner.update input).1.recurrence.speed.isNaN = false ∧
      (planner.update input).1.recurrence.accel.isNaN = false := by
  have released : input.control.engaged = false := by
    rw [off]
    rfl
  have seed : disabledSeed planner.params input = ⟨input.ego.speed,lesser input.ego.accel 0.0⟩ := by
    rw [disabledSeed,if_neg (by rw [off]; decide)]
  have finite : (lesser input.ego.accel 0.0).isFinite = true := by
    unfold lesser
    split
    · decide
    · split
      · decide
      · exact accel
  rw [update_carried,profileOf_disengaged planner released,planner.chosenOf_disengaged released,seed]
  exact ⟨Recurrence.advance_speed_number speed finite (number_of_finite finite),
    Recurrence.advance_accel_number finite (number_of_finite finite)⟩

-- Engaged cycles pass on what is no number until the controller is off.
theorem bad_reading_outlives (steps : List (Step Float)) (input : PlannerInput Float)
    (engaged : ∀ step ∈ steps, step.Engaged) (on : input.control.engaged = true) (real : input.ego.speed.isFinite = true) :
    (planner.through steps).Recalls input ∧
      (planner.recurrence.speed.isNaN = true →
        ((planner.through steps).update input).1.recurrence.speed.isNaN = true) ∧
      ∀ off : PlannerInput Float, off.control = .off → off.ego.speed.isFinite = true → off.ego.accel.isFinite = true →
        ((planner.through steps).update off).1.recurrence.speed.isNaN = false ∧
          ((planner.through steps).update off).1.recurrence.accel.isNaN = false :=
  ⟨(planner.through steps).update_recalls on real,
    fun missing => (planner.through steps).update_missing on (planner.through_missing engaged missing),
    fun _ off speed accel => (planner.through steps).update_off off speed accel⟩

theorem bad_reading_stays :
    start Params.standard (⟨[],0.001⟩ : Scripted Float) ⟨[],0.001⟩ = .ok (scripted [] []) ∧
      (openRoad 20.0).control.engaged = true ∧
      (((scripted [] []).update (openRoad (0.0 / 0.0))).1.update (openRoad 20.0)).2.1.targetAccel.isNaN = true ∧
      (((scripted [] []).update (openRoad (0.0 / 0.0))).1.update (openRoad 20.0)).1.recurrence.speed.isNaN = true :=
  ⟨scripted_start [] [],rfl,by decide +kernel,by decide +kernel⟩

def misled : Planner (Scripted Float) Float := ((scripted [] []).update (openRoad (0.0 / 0.0))).1

theorem misled_stays :
    (∀ step ∈ [Step.cycle (openRoad 20.0)], step.Engaged) ∧ (openRoad 20.0).control.engaged = true ∧
      (openRoad 20.0).ego.speed.isFinite = true ∧
      (misled.through [Step.cycle (openRoad 20.0)]).Recalls (openRoad 20.0) ∧
      misled.recurrence.speed.isNaN = true ∧
      ((misled.through [Step.cycle (openRoad 20.0)]).update (openRoad 20.0)).1.recurrence.speed.isNaN = true := by
  have engaged : ∀ step ∈ [Step.cycle (openRoad 20.0)], step.Engaged := by
    intro step member
    cases List.mem_singleton.mp member
    rfl
  have missing : misled.recurrence.speed.isNaN = true := by decide +kernel
  obtain ⟨recalls,stays,_⟩ := bad_reading_outlives misled [.cycle (openRoad 20.0)] (openRoad 20.0) engaged rfl
    (by decide)
  exact ⟨engaged,rfl,by decide,recalls,missing,stays missing⟩

end Planner
end Headway
