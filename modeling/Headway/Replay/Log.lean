import Headway.Log
import Headway.Replay.Summary

namespace Headway
open Decimal (fixed)

def stamped (time : Float) (text : String) : String := s!"t = {fixed 2 time} s: {text}"

def World.records (world : World Float) (command : Command Float) : List LogRecord :=
  .debug (stamped world.time command.text) :: effect
where
  effect : List LogRecord :=
    match command with
    | .brake true => if world.engaged then [.info "Driver braking, disengaging"] else []
    | .leadAccel _ =>
        if world.lead.isNone then [.warning "LEAD_ACCEL with no lead spawned, ignoring"] else []
    | _ => []

namespace Cycle

def records (cycle : Cycle Float) : List LogRecord :=
  cycle.report.records cycle.plan ++ source ++ collisionWarning ++ reset cycle.report.mpc1
    ++ reset cycle.report.mpc2 ++ second ++ collision
where
  time : Float := cycle.before.time
  source : List LogRecord :=
    if cycle.report.sourceChanged then
      [.info (stamped time s!"plan source is now {cycle.plan.source.label}")]
    else []
  collisionWarning : List LogRecord :=
    if cycle.plan.collisionWarning then [.warning (stamped time "forward collision warning")] else []
  reset (report : MpcReport Float) : List LogRecord :=
    report.reset.toList.map fun cause => .debug (stamped time s!"MPC{report.id} reset ({cause.text})")
  second : List LogRecord :=
    if cycle.before.onSecond then
      [.debug (stamped time
        (s!"v_ego = {fixed 2 cycle.before.ego.speed} m/s, "
          ++ s!"v_target = {fixed 2 cycle.plan.targetSpeed} m/s, "
          ++ s!"a_target = {fixed 2 cycle.plan.targetAccel} m/s^2, "
          ++ s!"TR = {fixed 2 cycle.report.mpc1.gap} s, source = {cycle.plan.source.label}"))]
    else []
  collision : List LogRecord :=
    if cycle.before.collisions < cycle.after.collisions then
      [.warning (stamped time "collision with the lead")]
    else []

end Cycle

def ReplayStep.records : ReplayStep Float → List LogRecord
  | .command world given => world.records given
  | .cycle happened => happened.records

def Summary.records (summary : Summary Float) (world : World Float) : List LogRecord :=
  [.info s!"Replayed {fixed 2 world.time} s of scenario",
   .info s!"Final ego speed: {fixed 2 world.ego.speed} m/s",
   .info (s!"Time per source: cruise {fixed 2 summary.cruiseTime} s, "
     ++ s!"mpc1 {fixed 2 summary.mpc1Time} s, mpc2 {fixed 2 summary.mpc2Time} s")]
  ++ approach
  ++ [.info s!"Forward collision warnings: {summary.warnings}"]
  ++ resets ++ collisions
where
  approach : List LogRecord :=
    if summary.leastGap.isFinite then
      [.info s!"Closest approach to the lead: {fixed 2 summary.leastGap} m"]
    else []
  resets : List LogRecord :=
    if 0 < summary.resets1 + summary.resets2 then
      [.warning s!"MPC resets: mpc1 {summary.resets1}, mpc2 {summary.resets2}"]
    else []
  collisions : List LogRecord :=
    if 0 < world.collisions then [.warning s!"Collisions with the lead: {world.collisions}"] else []

end Headway
