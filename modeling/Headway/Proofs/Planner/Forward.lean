import Headway.Proofs.Planner.Arbitration
import Headway.Proofs.Planner.Run

-- Which of the two speeds a plan starts with may lie below zero. The cruise speed is brought back to zero every
-- cycle. The speed a plan starts from is carried from one cycle to the next, and nothing stops it there.
namespace Headway
open Scalar

theorem Params.check_startSpeed {α : Type} [Scalar α] {params : Params α} (passed : params.check = .ok ()) :
    0.0 ≤ params.startSpeed := by
  unfold Params.check at passed
  split at passed
  · cases passed
  · split at passed
    · cases passed
    · split at passed
      · cases passed
      · rename_i forward
        simpa using forward

def Plan.handedOn {α : Type} [Scalar α] (plan : Plan α) : Recurrence α :=
  (⟨plan.startSpeed,plan.startAccel⟩ : Recurrence α).advance plan.targetAccel

namespace Planner
section Carried
variable {σ α : Type} [Scalar α] [Solver σ α]

-- What is carried to a cycle after a run is read off the last plan that was published.
theorem through_recurrence (planner : Planner σ α) (steps : List (Step α)) : (planner.through steps).recurrence =
    match (planner.plans steps).getLast? with
    | some plan => plan.handedOn
    | none => planner.recurrence := by
  induction steps generalizing planner with
  | nil => rfl
  | cons step rest ih =>
    cases step with
    | reconfigure params =>
      change ((planner.adopt params).through rest).recurrence = _
      rw [ih,(planner.adopt_kept params).2.1]
      rfl
    | cycle input =>
      change ((planner.update input).1.through rest).recurrence = _
      rw [ih,plans,List.getLast?_cons]
      cases ((planner.update input).1.plans rest).getLast? <;> rfl

theorem through_startSpeed {params : Params α} {primary secondary : σ} {planner : Planner σ α}
    (started : start params primary secondary = .ok planner) (steps : List (Step α)) :
    0.0 ≤ (planner.through steps).params.startSpeed := by
  obtain ⟨passed,rfl⟩ := start_exact.mp started
  refine through_keeps (fun later => 0.0 ≤ later.params.startSpeed) (Params.check_startSpeed passed) ?_
  intro later step _ forward
  cases step with
  | reconfigure changed =>
    change 0.0 ≤ (later.adopt changed).params.startSpeed
    rw [adopt_params]
    cases verdict : changed.check with
    | error refused => exact forward
    | ok accepted => exact Params.check_startSpeed verdict
  | cycle input => exact forward

end Carried

section Published
variable {σ : Type} [Solver σ Float]

def carriedSpeed (plans : List (Plan Float)) : Float :=
  match plans.getLast? with
  | some plan => plan.handedOn.speed
  | none => 0.0

-- A planner that was started with accepted parameters, after any run: the two speeds of its next plan.
theorem plan_forward {params : Params Float} {primary secondary : σ} {planner : Planner σ Float}
    (started : start params primary secondary = .ok planner) (steps : List (Step Float)) (input : PlannerInput Float)
    (forward : 0.0 ≤ input.ego.speed) :
    0.0 ≤ ((planner.through steps).update input).2.1.cruiseSpeed ∧
      (input.control.engaged = true →
        ((planner.through steps).update input).2.1.startSpeed = carriedSpeed (planner.plans steps)) ∧
      (0.0 ≤ ((planner.through steps).update input).2.1.startSpeed ↔
        (input.control.engaged = true → 0.0 ≤ carriedSpeed (planner.plans steps))) := by
  have standing := through_startSpeed started steps
  have carried : (planner.through steps).recurrence.speed = carriedSpeed (planner.plans steps) := by
    obtain ⟨_,rfl⟩ := start_exact.mp started
    unfold carriedSpeed
    rw [through_recurrence]
    cases (plans (fresh params primary secondary) steps).getLast? <;> rfl
  generalize planner.through steps = later at standing carried ⊢
  cases engaged : input.control.engaged with
  | true =>
    have start : (later.update input).2.1.startSpeed = carriedSpeed (planner.plans steps) := by
      rw [← carried,← enabledProfile_speed later input (targetsOf later.params input),← later.profileOf_engaged engaged]
      rfl
    refine ⟨cruise_forward later input engaged,fun _ => start,?_⟩
    rw [start]
    simp
  | false =>
    have profile := later.profileOf_disengaged engaged
    have seed : 0.0 ≤ (disabledSeed later.params input).speed := by
      unfold disabledSeed
      split
      · exact standing
      · exact forward
    have start : 0.0 ≤ (later.update input).2.1.startSpeed := by
      change 0.0 ≤ (later.profileOf input).seed.speed
      rw [profile]
      exact seed
    refine ⟨?_,nofun,iff_of_true start nofun⟩
    change 0.0 ≤ (later.profileOf input).speed
    rw [profile]
    exact seed

end Published

def standing : PlannerInput Float :=
  { openRoad 0.0 with ego := { Ego.moving 0.0 with accel := -1.0 }, control := .off }

theorem reversal_planned :
    start Params.standard (⟨[],0.001⟩ : Scripted Float) ⟨[],0.001⟩ = .ok (scripted [] []) ∧
      0.0 ≤ standing.ego.speed ∧ 0.0 ≤ (openRoad 0.0).ego.speed ∧
      (((scripted [] []).update standing).1.update (openRoad 0.0)).2.1.startSpeed < 0.0 :=
  ⟨scripted_start [] [],by decide,by decide,by decide +kernel⟩

theorem reversal_carried :
    start Params.standard (⟨[],0.001⟩ : Scripted Float) ⟨[],0.001⟩ = .ok (scripted [] []) ∧
      0.0 ≤ (openRoad 0.0).ego.speed ∧
      0.0 ≤ (((scripted [] []).through [.cycle standing]).update (openRoad 0.0)).2.1.cruiseSpeed ∧
      (((scripted [] []).through [.cycle standing]).update (openRoad 0.0)).2.1.startSpeed =
        carriedSpeed ((scripted [] []).plans [.cycle standing]) := by
  have forward : 0.0 ≤ (openRoad 0.0).ego.speed := by decide
  obtain ⟨cruise,start,_⟩ := plan_forward (scripted_start [] []) [.cycle standing] (openRoad 0.0) forward
  exact ⟨scripted_start [] [],forward,cruise,start rfl⟩

end Planner
end Headway
