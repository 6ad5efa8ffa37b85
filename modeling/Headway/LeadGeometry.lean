import Headway.Car
import Headway.Radar
import Headway.Table

namespace Headway
open Scalar
variable {α : Type} [Scalar α]

structure LeadGeometry (α : Type) where
  distance : α
  speed : α
  accel : α
deriving Repr, BEq

namespace LeadGeometry

def stoppedBelow : α := 0.1

def ofTrack (track : LeadTrack α) : LeadGeometry α :=
  let speed := greater track.speed 0.0
  if speed < stoppedBelow ∨ speed < -track.filteredAccel / 2.0 then
    ⟨track.distance, 0.0, 0.0⟩
  else
    ⟨track.distance, speed, track.filteredAccel⟩

def absent (egoSpeed : α) : LeadGeometry α :=
  ⟨50.0, egoSpeed + 10.0, 0.0⟩

def phantomReach : α := 9.144

-- A lost link stops the car from up to 32 mph, ten miles an hour below the ego, within 2 ft to 20 ft.
def lostGap : Table α := .of (0.0, 0.6096) (14.3053, 6.096) []
def lostAccel : Table α := .of (0.0, 0.0) (14.3053, -2.2352) []

def ofPhantom (phantom : Phantom α) (track : Option (LeadTrack α)) (egoSpeed : α) : LeadGeometry α :=
  if !(phantom.speed == 0.0) then
    match Radar.lead? track with
    | some lead =>
        let real := ofTrack lead
        ⟨lesser phantomReach real.distance, lesser phantom.speed real.speed, 0.0⟩
    | none => ⟨phantomReach, phantom.speed, 0.0⟩
  else if phantom.linkLost then
    ⟨lostGap.read egoSpeed, greater (egoSpeed - 4.4704) 0.0, lostAccel.read egoSpeed⟩
  else
    ⟨3.75, greater (egoSpeed - 1.34112) 0.0, -0.44704⟩

end LeadGeometry
end Headway
