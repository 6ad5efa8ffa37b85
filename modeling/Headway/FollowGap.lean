import Headway.LeadGeometry

namespace Headway
open Scalar
variable {α : Type} [Scalar α]

namespace FollowGap

def shortest : α := 0.9
def longest : α := 2.7

-- Up to this speed (15 mph) the gap ramps toward the crawl value and the lead plays no part.
def crawlSpeed : α := 6.7056

def bySpeed : Table α :=
  .of (0.0, 1.542) (5.222, 1.553)
    [(11.164, 1.599), (14.937, 1.68), (20.973, 1.75), (33.975, 1.855), (42.469, 1.9)]

def byClosing : Table α :=
  .of (-15.6464, 0.504) (-9.8422, 0.34)
    [(-6.0, 0.29), (-4.0, 0.25), (-2.68, 0.22), (-2.3, 0.19), (-1.8, 0.13), (-1.26, 0.053),
     (-0.61, 0.017), (0.0, 0.0), (0.61, -0.015), (1.26, -0.042), (2.1, -0.108), (2.68, -0.163)]

def byLeadAccel : Table α :=
  .of (-2.235, 0.26) (-1.49, 0.182)
    [(-1.1, 0.104), (-0.67, 0.052), (-0.224, 0.039), (0.0, 0.0), (0.67, -0.016), (1.1, -0.032),
     (1.49, -0.056)]

def bySignal : Table α :=
  .of (8.9408, 1.0) (22.352, 0.8) [(31.2928, 0.75)]

def crawl : Table α :=
  .of (4.4704, 1.8) (crawlSpeed, bySpeed.read crawlSpeed) []

def choose (egoSpeed : α) (lead : Option (LeadGeometry α)) (signalling : Bool) (traffic : α) : α :=
  if egoSpeed ≤ crawlSpeed then roundTo 3 (crawl.read egoSpeed)
  else
    match lead with
    | none => bySpeed.read egoSpeed
    | some lead =>
        let gap := bySpeed.read egoSpeed + byClosing.read (lead.speed - egoSpeed)
        let gap := gap + byLeadAccel.read lead.accel
        let gap := if signalling then gap * bySignal.read egoSpeed else gap
        clamp shortest longest (roundTo 3 (gap * traffic))

end FollowGap

namespace DistanceWeight

def byGap : Table α := .of (0.9, 1.0) (1.8, 0.1) [(2.7, 0.05)]

def measuredGapThreshold : α := 0.25

-- The measured gap decides where it is far from the wanted one.
def decidingGap (gap egoSpeed : α) (lead : LeadGeometry α) : α :=
  if egoSpeed == 0.0 then gap
  else
    let measured := lead.distance / egoSpeed
    if measuredGapThreshold ≤ abs (measured - gap) then measured else gap

def select (gap egoSpeed : α) (lead : Option (LeadGeometry α)) : α :=
  match lead with
  | none => roundTo 3 (byGap.read gap)
  | some lead =>
      let weight := byGap.read (decidingGap gap egoSpeed lead)
      if lead.speed < egoSpeed ∧ 5.0 < egoSpeed then
        roundTo 3 (weight / clamp 1.0 2.0 ((lead.speed - egoSpeed) / 2.0 + 1.5))
      else roundTo 3 weight

end DistanceWeight
end Headway
