import Headway.Command
import Headway.Planner

-- The ego follows the plan while the controller is engaged; a lead moves at constant acceleration.
namespace Headway
open Scalar
variable {α : Type}

structure SimulatedLead (α : Type) where
  distance : α
  speed : α
  accel : α
deriving Repr

structure World (α : Type) where
  count : UInt64
  onSecond : Bool
  time : α
  ego : Ego α
  lead : Option (SimulatedLead α)
  engaged : Bool
  cruiseKph : α
  forceDecel : Bool
  map : Option (RoadMap α)
  laterAngle : Option α
  phantom : Option (Phantom α)
  collisions : Nat
deriving Repr

namespace World

def cycles (world : World α) : Nat := world.count.toNat

variable [Scalar α]

def stepTime : α := 0.05
def stepsPerSecond : Nat := 20

def start (egoSpeed : α) : World α where
  count := 0
  onSecond := false
  time := 0.0
  ego := .moving egoSpeed
  lead := none
  engaged := false
  cruiseKph := 0.0
  forceDecel := false
  map := none
  laterAngle := none
  phantom := none
  collisions := 0

def withMap (world : World α) (change : RoadMap α → RoadMap α) : World α :=
  { world with map := some (change (world.map.getD .blank)) }

-- Braking ends the engagement.
def exec (world : World α) : Command α → World α
  | .engage => { world with engaged := true }
  | .disengage => { world with engaged := false }
  | .setCruise kph => { world with cruiseKph := kph }
  | .spawnLead distance speed accel => { world with lead := some ⟨distance, speed, accel⟩ }
  | .leadAccel accel => { world with lead := world.lead.map fun lead => { lead with accel } }
  | .removeLead => { world with lead := none }
  | .setBlinkers left right =>
      { world with ego := { world.ego with leftBlinker := left, rightBlinker := right } }
  | .setSteering angle laterAngle =>
      { world with ego := { world.ego with steeringAngle := angle }, laterAngle }
  | .setLimit limit => world.withMap fun map => { map with limitKnown := true, limit }
  | .setLimitAhead limit distance =>
      world.withMap fun map =>
        { map with nextLimitKnown := true, nextLimit := limit, nextLimitDistance := distance }
  | .clearLimitAhead => world.withMap fun map => { map with nextLimitKnown := false }
  | .setCurvature curvature turnDistance =>
      world.withMap fun map => { map with curvatureKnown := true, curvature, turnDistance }
  | .clearCurvature => world.withMap fun map => { map with curvatureKnown := false }
  | .phantom request => { world with phantom := some request }
  | .brake pressed =>
      { world with
        ego := { world.ego with brakePressed := pressed }
        engaged := world.engaged && !pressed }
  | .forceDecel active => { world with forceDecel := active }

def track (lead : SimulatedLead α) : LeadTrack α where
  valid := true
  distance := lead.distance
  speed := lead.speed
  filteredSpeed := lead.speed
  filteredAccel := lead.accel
  lateralOffset := 0.0
  lateralSpeed := 0.0
  accelDecay := 1.5
  threat := 1.0

def input (world : World α) : PlannerInput α where
  time := world.time
  ego := world.ego
  radar := ⟨world.lead.map track, none, [], world.time⟩
  map := world.map.map fun map => { map with receivedAt := world.time }
  cruiseKph := world.cruiseKph
  control := if world.engaged then .pid else .off
  forceDecel := world.forceDecel
  laterAngle := world.laterAngle
  phantom := world.phantom

def egoAccel (world : World α) (plan : Plan α) : α :=
  if world.ego.brakePressed then -3.0
  else if world.engaged then plan.targetAccel
  else 0.0

def nextSpeed (speed accel : α) : α := greater (speed + accel * stepTime) 0.0

def covered (before after : α) : α := 0.5 * (before + after) * stepTime

def moveLead (lead : SimulatedLead α) (travelled : α) : SimulatedLead α :=
  let speed := nextSpeed lead.speed lead.accel
  { lead with speed, distance := lead.distance + (covered lead.speed speed - travelled) }

def moveMap (map : RoadMap α) (travelled : α) : RoadMap α :=
  let map := { map with turnDistance := greater (map.turnDistance - travelled) 0.0 }
  if map.nextLimitKnown then
    let distance := map.nextLimitDistance - travelled
    if distance ≤ 0.0 then
      { map with
        limitKnown := true
        limit := map.nextLimit
        nextLimitKnown := false
        nextLimitDistance := 0.0 }
    else { map with nextLimitDistance := distance }
  else map

def passed (lead : Option (SimulatedLead α)) : Bool :=
  lead.any fun lead => lead.distance < 0.0

def step (world : World α) (plan : Plan α) : World α :=
  let before := world.ego.speed
  let after := nextSpeed before (world.egoAccel plan)
  let travelled := covered before after
  let lead := world.lead.map (moveLead · travelled)
  let count := world.count + 1
  { world with
    count
    onSecond := count.toNat % stepsPerSecond = 0
    time := ofNat count.toNat * stepTime
    ego := { world.ego with speed := after, accel := (after - before) / stepTime }
    lead := if passed lead then none else lead
    map := world.map.map (moveMap · travelled)
    collisions := if passed lead then world.collisions + 1 else world.collisions }

end World
end Headway
