import Headway.Scalar

-- A value counts only while its own flag is set.
namespace Headway
open Scalar

structure RoadMap (α : Type) where
  limitKnown : Bool
  limit : α
  nextLimitKnown : Bool
  nextLimit : α
  nextLimitDistance : α
  curvatureKnown : Bool
  curvature : α
  turnDistance : α
  usable : Bool
  receivedAt : α
deriving Repr

def RoadMap.blank {α : Type} [Scalar α] : RoadMap α :=
  ⟨false, 0.0, false, 0.0, 0.0, false, 0.0, 0.0, true, 0.0⟩

end Headway
