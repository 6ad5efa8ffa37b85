import Headway.Proofs.Exact
import Headway.Proofs.World.Run

-- What every step restores. Commands may put anything anywhere, ahead of the ego or behind it; a step moves ego, lead and
-- map by the same way travelled, and leaves nothing ahead at a distance below zero.
namespace Headway.World
open Scalar

section Removals
variable {α : Type} [Scalar α]

def nextEgoSpeed (world : World α) (plan : Plan α) : α := nextSpeed world.ego.speed (world.egoAccel plan)

def travelled (world : World α) (plan : Plan α) : α := covered world.ego.speed (world.nextEgoSpeed plan)

def movedLead (world : World α) (plan : Plan α) : Option (SimulatedLead α) :=
  world.lead.map (moveLead · (world.travelled plan))

theorem step_ego (world : World α) (plan : Plan α) : (world.step plan).ego =
    { world.ego with
      speed := world.nextEgoSpeed plan
      accel := (world.nextEgoSpeed plan - world.ego.speed) / stepTime } := rfl

theorem step_lead (world : World α) (plan : Plan α) :
    (world.step plan).lead = if passed (world.movedLead plan) then none else world.movedLead plan := rfl

theorem step_map (world : World α) (plan : Plan α) :
    (world.step plan).map = world.map.map (moveMap · (world.travelled plan)) := rfl

theorem step_collisions (world : World α) (plan : Plan α) : (world.step plan).collisions =
    if passed (world.movedLead plan) then world.collisions + 1 else world.collisions := rfl

def Event.spawns : Event α → Bool
  | .command (.spawnLead ..) => true
  | _ => false

-- Whether a step loses the lead. A command that removes it is no collision.
def removes (world : World α) : Event α → Bool
  | .command _ => false
  | .step plan => world.lead.isSome && (world.step plan).lead.isNone

def removals (world : World α) : List (Event α) → Nat
  | [] => 0
  | event :: rest => (world.removes event).toNat + (world.advance event).removals rest

theorem removes_exact (world : World α) (plan : Plan α) :
    world.removes (.step plan) = passed (world.movedLead plan) := by
  change (world.lead.isSome && (world.step plan).lead.isNone) = _
  rw [step_lead]
  unfold movedLead
  cases world.lead with
  | none => rfl
  | some lead =>
    rw [Option.map_some]
    cases passed (some (moveLead lead (world.travelled plan))) <;> rfl

theorem advance_collisions (world : World α) (event : Event α) :
    (world.advance event).collisions = world.collisions + (world.removes event).toNat := by
  cases event with
  | command command => cases command <;> rfl
  | step plan =>
    rw [removes_exact,advance,step_collisions]
    cases passed (world.movedLead plan) <;> rfl

theorem through_collisions (world : World α) (events : List (Event α)) :
    (world.through events).collisions = world.collisions + world.removals events := by
  induction events generalizing world with
  | nil => rfl
  | cons event rest ih =>
    have next := ih (world.advance event)
    rw [advance_collisions] at next
    refine next.trans ?_
    rw [removals,Nat.add_assoc]

theorem advance_spawned (world : World α) (event : Event α) :
    (world.advance event).collisions + (world.advance event).lead.isSome.toNat ≤
      world.collisions + world.lead.isSome.toNat + event.spawns.toNat := by
  cases event with
  | command command =>
    cases command with
    | spawnLead distance speed accel =>
      change world.collisions + 1 ≤ world.collisions + world.lead.isSome.toNat + 1
      omega
    | leadAccel accel =>
      change world.collisions + (world.lead.map _).isSome.toNat ≤ _
      rw [Option.isSome_map]
      exact Nat.le_refl _
    | removeLead => exact Nat.add_le_add_left (Nat.zero_le _) world.collisions
    | _ => exact Nat.le_refl _
  | step plan =>
    rw [advance,step_collisions,step_lead]
    unfold movedLead
    cases world.lead with
    | none => exact Nat.le_refl _
    | some lead =>
      rw [Option.map_some]
      cases passed (some (moveLead lead (world.travelled plan))) <;> exact Nat.le_refl _

theorem through_spawned (world : World α) (events : List (Event α)) :
    (world.through events).collisions + (world.through events).lead.isSome.toNat ≤
      world.collisions + world.lead.isSome.toNat + events.countP (·.spawns) := by
  induction events generalizing world with
  | nil => exact Nat.le_refl _
  | cons event rest ih =>
    have first := world.advance_spawned event
    have later := ih (world.advance event)
    have counted : (if event.spawns = true then 1 else 0) = event.spawns.toNat := by cases event.spawns <;> rfl
    rw [List.countP_cons,counted]
    change ((world.advance event).through rest).collisions + ((world.advance event).through rest).lead.isSome.toNat ≤ _
    omega

end Removals

-- What holds right after a step, whatever stood before it.
structure Settled (before after : World ℝ) : Prop where
  forward : 0 ≤ after.ego.speed
  accel : after.ego.accel * stepTime = after.ego.speed - before.ego.speed
  lead : ∀ lead ∈ after.lead, 0 ≤ lead.distance ∧ 0 ≤ lead.speed
  turn : ∀ map ∈ after.map, 0 ≤ map.turnDistance
  limit : ∀ map ∈ after.map, map.nextLimitKnown = true → 0 < map.nextLimitDistance

theorem nextSpeed_nonneg (speed accel : ℝ) : 0 ≤ nextSpeed speed accel := by
  unfold nextSpeed
  rw [greater_max]
  norm_num

theorem moveMap_turnDistance (map : RoadMap ℝ) (travelled : ℝ) : 0 ≤ (moveMap map travelled).turnDistance := by
  have reached : 0 ≤ greater (map.turnDistance - travelled) 0.0 := by
    rw [greater_max]
    norm_num
  unfold moveMap
  dsimp only
  split
  · split
    · exact reached
    · exact reached
  · exact reached

-- A limit that has been reached is the present one and no longer ahead.
theorem moveMap_limitDistance (map : RoadMap ℝ) (travelled : ℝ) (known : (moveMap map travelled).nextLimitKnown = true) :
    0 < (moveMap map travelled).nextLimitDistance := by
  unfold moveMap at known ⊢
  dsimp only at known ⊢
  split
  · rename_i ahead
    rw [if_pos ahead] at known
    split
    · rename_i reached
      rw [if_pos reached] at known
      cases known
    · rename_i remaining
      have zero : (0.0 : ℝ) = 0 := by norm_num
      rw [zero,not_le] at remaining
      exact remaining
  · rename_i none
    rw [if_neg none] at known
    exact absurd known none

theorem step_settled (world : World ℝ) (plan : Plan ℝ) : Settled world (world.step plan) where
  forward := nextSpeed_nonneg _ _
  accel := by
    have apart : (stepTime : ℝ) ≠ 0 := by
      unfold stepTime
      norm_num
    rw [step_ego]
    exact div_mul_cancel₀ _ apart
  lead := by
    rw [step_lead]
    intro lead remains
    split at remains
    · cases remains
    · rename_i ahead
      rw [Option.mem_def.mp remains] at ahead
      obtain ⟨before,_,rfl⟩ := Option.mem_map.mp remains
      refine ⟨?_,nextSpeed_nonneg _ _⟩
      have zero : (0.0 : ℝ) = 0 := by norm_num
      simpa [passed,zero] using ahead
  turn := by
    rw [step_map]
    intro map known
    obtain ⟨before,_,rfl⟩ := Option.mem_map.mp known
    exact moveMap_turnDistance _ _
  limit := by
    rw [step_map]
    intro map known ahead
    obtain ⟨before,_,rfl⟩ := Option.mem_map.mp known
    exact moveMap_limitDistance _ _ ahead

theorem steps_settle (speed : ℝ) (events : List (Event ℝ)) (plan : Plan ℝ) :
    let before := (start speed).through events
    let after := before.step plan
    Settled before after ∧ after.collisions = (start speed).removals (events ++ [.step plan]) ∧
      after.collisions ≤ events.countP (·.spawns) := by
  intro before after
  have reached : after = (start speed).through (events ++ [.step plan]) := by
    rw [through_append]
    rfl
  refine ⟨step_settled before plan,?_,?_⟩
  · rw [reached,through_collisions]
    exact Nat.zero_add _
  · have spawned := (start speed).through_spawned (events ++ [.step plan])
    rw [← reached,List.countP_append] at spawned
    change after.collisions + _ ≤ 0 + 0 + (_ + 0) at spawned
    omega

end Headway.World
