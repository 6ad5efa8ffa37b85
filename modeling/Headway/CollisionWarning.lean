import Headway.Radar
import Headway.Table

-- Forward collision warning. A new lead starts the count again, but does not end the quiet.
namespace Headway
open Scalar
variable {α : Type} [Scalar α]

-- The lead is taken to need two seconds to stop, or its braking would count for too much at the end.
def timeToCollision (egoSpeed egoAccel distance leadSpeed leadAccel : α) : α :=
  let closing := egoSpeed - leadSpeed
  let gaining := lesser (egoAccel - leadAccel) (leadSpeed / 2.0)
  let discriminant := closing * closing + 2.0 * distance * gaining
  if discriminant < 0.1 ∨ sqrt discriminant + closing < 0.1 then 5.0
  else lesser (2.0 * distance / (sqrt discriminant + closing)) 5.0

structure WarningCounters (α : Type) where
  egoSpeed : α
  timeToCollision : α
  leadSpeedMax : α
  closing : α
  leadSeen : α
  lateralOffset : α
  lateralSpeed : α
  blinkers : α
deriving Repr

namespace WarningCounters

def zero : WarningCounters α := ⟨0.0, 0.0, 0.0, 0.0, 0.0, 0.0, 0.0, 0.0⟩

def reached (counters : WarningCounters α) : Bool :=
  [counters.egoSpeed, counters.timeToCollision, counters.leadSpeedMax, counters.closing,
   counters.leadSeen, counters.lateralOffset, counters.lateralSpeed, counters.blinkers].all
    fun counter => 10.0 ≤ counter

def count (counter : α) (holds : Bool) (increment : α) : α :=
  if holds then counter + increment else 0.0

end WarningCounters

structure WarningInput (α : Type) where
  time : α
  egoSpeed : α
  egoAccel : α
  signalling : Bool
  predicted : List α

structure CollisionWarning (α : Type) where
  counters : WarningCounters α
  lastTime : Option α
  lastAccel : α
  leadSpeedMax : α
  leadSeenAt : α
deriving Repr

namespace CollisionWarning
open WarningCounters

def start : CollisionWarning α := ⟨.zero, none, 0.0, 0.0, 0.0⟩

def rearm (warning : CollisionWarning α) (time : α) : CollisionWarning α :=
  { warning with counters := .zero, lastAccel := 0.0, leadSpeedMax := 0.0, leadSeenAt := time }

def least? (xs : List α) : Option α :=
  xs.foldl pick none
where
  pick (best : Option α) (x : α) : Option α :=
    if isNaN x then best
    else match best with
      | none => some x
      | some b => if x < b then some x else some b

def brakingThreshold : Table α := .of (0.0, -3.0) (30.0, -2.0) []

def threat? (input : WarningInput α) (lead : LeadTrack α) : Option α :=
  (least? input.predicted).filter fun hardest =>
    hardest < -3.0 ||
      (least? (input.predicted.take 15)).any fun near =>
        near - lesser input.egoAccel 0.0 < brakingThreshold.read lead.speed

def quietOver (warning : CollisionWarning α) (time : α) : Bool :=
  match warning.lastTime with
  | some last => last + 5.0 < time
  | none => true

def counted (warning : CollisionWarning α) (input : WarningInput α) (lead : LeadTrack α)
    (leadSpeedMax : α) : WarningCounters α :=
  let c := warning.counters
  let collision := timeToCollision input.egoSpeed input.egoAccel lead.distance lead.speed
    lead.filteredAccel
  { egoSpeed := count c.egoSpeed (5.0 < input.egoSpeed) 1.0
    timeToCollision := count c.timeToCollision (collision < 2.5) 1.0
    leadSpeedMax := count c.leadSpeedMax (2.5 < leadSpeedMax) 1.0
    closing := count c.closing (lead.speed < input.egoSpeed) 1.0
    leadSeen := c.leadSeen + 0.33
    lateralOffset := count c.lateralOffset (abs lead.lateralOffset < 1.0) 1.0
    lateralSpeed := count c.lateralSpeed (abs lead.lateralSpeed < 0.4) 1.0
    blinkers := count c.blinkers (!input.signalling) (10.0 / (20.0 * 3.0)) }

def update (warning : CollisionWarning α) (input : WarningInput α) (lead : LeadTrack α) :
    CollisionWarning α × Bool :=
  let leadSpeedMax := greater warning.leadSpeedMax lead.speed
  if 0.99 < lead.threat then
    let counters := warning.counted input lead leadSpeedMax
    let checked := { warning with leadSpeedMax, counters }
    match threat? input lead with
    | some hardest =>
        if counters.reached && warning.quietOver input.time then
          ({ checked with lastTime := some input.time, lastAccel := hardest }, true)
        else (checked, false)
    | none => (checked, false)
  else ({ warning with leadSpeedMax }, false)

end CollisionWarning
end Headway
