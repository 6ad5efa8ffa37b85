import Headway.Proofs.Order
import Headway.SpeedTargets

-- What the ceilings of a cycle owe to a map: the values whose own flag is set, and nothing of the others.
namespace Headway
open Scalar
variable {α : Type} [Scalar α]

def RoadMap.masked (map : RoadMap α) : RoadMap α :=
  { map with
    limit := if map.limitKnown then map.limit else 0.0
    nextLimit := if map.nextLimitKnown then map.nextLimit else 0.0
    nextLimitDistance := if map.nextLimitKnown then map.nextLimitDistance else 0.0
    curvature := if map.curvatureKnown then map.curvature else 0.0
    turnDistance := if map.curvatureKnown then map.turnDistance else 0.0 }

namespace SpeedTargets

-- Ceilings that differ at most in the distance to something that is not slowed down for.
structure SameCeilings (egoSpeed : α) (targets other : SpeedTargets α) : Prop where
  same : other =
    { targets with turnDistance := other.turnDistance, aheadDistance := other.aheadDistance }
  turn : targets.slowingForTurn = true → other.turnDistance = targets.turnDistance
  ahead : targets.limitAhead < egoSpeed → other.aheadDistance = targets.aheadDistance

theorem SameCeilings.turnInRange {egoSpeed : α} {targets other : SpeedTargets α}
    (same : SameCeilings egoSpeed targets other) : other.turnInRange = targets.turnInRange := by
  unfold SpeedTargets.turnInRange
  rw [same.same]
  cases slowing : targets.slowingForTurn with
  | false => rfl
  | true => rw [same.turn slowing]

theorem fuse_alone {driver egoSpeed : α} {settings : LimitSettings α} (map : Option (RoadMap α))
    (unfollowed : settings.follow = false) :
    fuse driver egoSpeed map settings = driverOnly driver settings.mode := by
  unfold fuse
  rw [unfollowed]
  cases map <;> rfl

def mapped (driver : α) (map : RoadMap α) (settings : LimitSettings α) : SpeedTargets α :=
  { driverOnly driver settings.mode with
    turnDistance := map.turnDistance
    aheadDistance := map.nextLimitDistance
    limit := if map.limitKnown then map.limit + settings.offset else noCeiling
    curve := if map.curvatureKnown then curveSpeed map.curvature else noCeiling }

theorem withLimitAhead_frame (targets : SpeedTargets α) (egoSpeed : α) (map : RoadMap α) (offset : α) :
    targets.withLimitAhead egoSpeed map offset =
      { targets with
        horizon := (targets.withLimitAhead egoSpeed map offset).horizon
        limitAhead := (targets.withLimitAhead egoSpeed map offset).limitAhead } := by
  unfold withLimitAhead
  split <;> rfl

theorem withLimitAhead_unknown (targets : SpeedTargets α) (egoSpeed : α) {map : RoadMap α} (offset : α)
    (unknown : map.nextLimitKnown = false) : targets.withLimitAhead egoSpeed map offset = targets := by
  unfold withLimitAhead
  rw [unknown]
  exact if_neg fun known => Bool.false_ne_true known.1

theorem withLimitAhead_masked (targets : SpeedTargets α) (egoSpeed : α) (map : RoadMap α) (offset : α) :
    targets.withLimitAhead egoSpeed map.masked offset = targets.withLimitAhead egoSpeed map offset := by
  obtain ⟨limitKnown,limit,nextLimitKnown,nextLimit,nextLimitDistance,_⟩ := map
  cases nextLimitKnown with
  | false => rw [withLimitAhead_unknown _ _ _ rfl,withLimitAhead_unknown _ _ _ rfl]
  | true => cases limitKnown <;> rfl

section Followed
variable {driver egoSpeed : α} {map : RoadMap α} {settings : LimitSettings α}

theorem fuse_followed (followed : settings.follow = true) :
    fuse driver egoSpeed (some map) settings =
      let targets := (mapped driver map settings).withLimitAhead egoSpeed map settings.offset
      { targets with
        slowingForTurn := targets.curve < lesser (lesser driver targets.limit) (egoSpeed + 1.0)
        setpoint := lesser (lesser (lesser driver targets.curve) targets.limit) targets.limitAhead } := by
  unfold fuse
  rw [followed]
  rfl

-- Without a curvature the curve stands at the sentinel, which an ego below it by a metre per second does not
-- slow for.
theorem fuse_straight [Ordered α] (unknown : map.curvatureKnown = false) (slow : egoSpeed + 1.0 ≤ noCeiling) :
    (fuse driver egoSpeed (some map) settings).slowingForTurn = false := by
  cases followed : settings.follow with
  | false =>
    rw [fuse_alone _ followed]
    rfl
  | true =>
    rw [fuse_followed followed,withLimitAhead_frame]
    have curve : (mapped driver map settings).curve = noCeiling := by
      unfold mapped
      rw [unknown]
      rfl
    apply decide_eq_false
    change ¬ (mapped driver map settings).curve < _
    rw [curve]
    apply Ordered.not_lt_of_le
    exact Ordered.le_trans (Ordered.lesser_le_right (Ordered.numbers_of_le slow).1) slow

theorem fuse_limitAhead_unknown (unknown : map.nextLimitKnown = false) :
    (fuse driver egoSpeed (some map) settings).limitAhead = noCeiling := by
  cases followed : settings.follow with
  | false =>
    rw [fuse_alone _ followed]
    rfl
  | true =>
    rw [fuse_followed followed,withLimitAhead_unknown _ _ _ unknown]
    rfl

end Followed

section Masked
variable {driver egoSpeed : α} {map : RoadMap α} {settings : LimitSettings α}

def withDistances (targets : SpeedTargets α) (map : RoadMap α) : SpeedTargets α :=
  { targets with turnDistance := map.turnDistance, aheadDistance := map.nextLimitDistance }

theorem mapped_masked : mapped driver map.masked settings = (mapped driver map settings).withDistances map.masked := by
  obtain ⟨limitKnown,_,_,_,_,curvatureKnown,_⟩ := map
  cases limitKnown <;> cases curvatureKnown <;> rfl

theorem withLimitAhead_distances (targets : SpeedTargets α) (other : RoadMap α) (offset : α) :
    (targets.withDistances other).withLimitAhead egoSpeed map offset =
      (targets.withLimitAhead egoSpeed map offset).withDistances other := by
  change (if map.nextLimitKnown = true ∧ map.nextLimitDistance < targets.horizon then _ else _) = _
  unfold withLimitAhead
  split <;> rfl

theorem fuse_distances (followed : settings.follow = true) :
    fuse driver egoSpeed (some map) settings = (fuse driver egoSpeed (some map) settings).withDistances map := by
  rw [fuse_followed followed,withLimitAhead_frame]
  rfl

theorem fuse_masked_distances (followed : settings.follow = true) :
    fuse driver egoSpeed (some map.masked) settings =
      (fuse driver egoSpeed (some map) settings).withDistances map.masked := by
  rw [fuse_followed followed,fuse_followed followed,mapped_masked,withLimitAhead_masked,withLimitAhead_distances]
  rfl

theorem fuse_masked [Ordered α] (driver : α) (map : Option (RoadMap α)) (settings : LimitSettings α)
    (slow : egoSpeed + 1.0 ≤ noCeiling) (below : ¬ noCeiling < egoSpeed) :
    SameCeilings egoSpeed (fuse driver egoSpeed map settings)
      (fuse driver egoSpeed (map.map RoadMap.masked) settings) := by
  cases map with
  | none => exact ⟨rfl,fun _ => rfl,fun _ => rfl⟩
  | some map =>
    cases followed : settings.follow with
    | false =>
      rw [fuse_alone _ followed,fuse_alone _ followed]
      exact ⟨rfl,fun _ => rfl,fun _ => rfl⟩
    | true =>
      change SameCeilings egoSpeed _ (fuse driver egoSpeed (some map.masked) settings)
      refine ⟨?_,?_,?_⟩
      · rw [fuse_masked_distances followed]
        rfl
      · intro slowing
        cases known : map.curvatureKnown with
        | false =>
          rw [fuse_straight known slow] at slowing
          cases slowing
        | true =>
          rw [fuse_masked_distances followed,fuse_distances followed]
          exact if_pos known
      · intro lower
        cases known : map.nextLimitKnown with
        | false =>
          rw [fuse_limitAhead_unknown known] at lower
          exact absurd lower below
        | true =>
          rw [fuse_masked_distances followed,fuse_distances followed]
          exact if_pos known

end Masked
end SpeedTargets
end Headway
