import Headway.Scalar

namespace Headway
variable {α : Type}

structure LeadTrack (α : Type) where
  valid : Bool
  distance : α
  speed : α
  filteredSpeed : α
  filteredAccel : α
  lateralOffset : α
  lateralSpeed : α
  accelDecay : α
  threat : α
deriving Repr

inductive RadarError where
  | fault
  | commIssue
deriving Repr, DecidableEq

structure Radar (α : Type) where
  primary : Option (LeadTrack α)
  secondary : Option (LeadTrack α)
  errors : List RadarError
  receivedAt : α
deriving Repr

namespace Radar

-- A track that is not valid is as good as none: nothing downstream sees its fields.
def lead? (track : Option (LeadTrack α)) : Option (LeadTrack α) :=
  track.filter (·.valid)

def primaryLead (radar : Radar α) : Option (LeadTrack α) := lead? radar.primary
def secondaryLead (radar : Radar α) : Option (LeadTrack α) := lead? radar.secondary

def hasFault (radar : Radar α) : Bool := radar.errors.contains .fault
def hasCommIssue (radar : Radar α) : Bool := radar.errors.contains .commIssue

end Radar
end Headway
