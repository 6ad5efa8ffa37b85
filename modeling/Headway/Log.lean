import Headway.Planner
import Headway.Text.Quoted

namespace Headway
open Decimal (fixed)
open Decimal.Layout (field)

inductive LogLevel where
  | debug
  | info
  | warning
deriving Repr, DecidableEq

def LogLevel.tag : LogLevel → String
  | .debug => "DBG"
  | .info => "INF"
  | .warning => "WRN"

structure LogRecord where
  level : LogLevel
  message : String
deriving Repr, DecidableEq

namespace LogRecord

def debug (message : String) : LogRecord := ⟨.debug, message⟩
def info (message : String) : LogRecord := ⟨.info, message⟩
def warning (message : String) : LogRecord := ⟨.warning, message⟩

def line (record : LogRecord) : String := record.level.tag ++ " " ++ record.message

end LogRecord

def ResetCause.text : ResetCause Float → String
  | .course backwards crashing nans =>
      s!"Trajectory \x7b backwards: {backwards}, crashing: {crashing}, nans: {nans} \x7d"
  | .solver fault => s!"Solver({Text.quoted fault.message})"

def WarningCounters.text (c : WarningCounters Float) : String :=
  s!"FcwCounters \x7b v_ego: {field.text c.egoSpeed}, ttc: {field.text c.timeToCollision}, "
    ++ s!"v_lead_max: {field.text c.leadSpeedMax}, v_ego_lead: {field.text c.closing}, "
    ++ s!"lead_seen: {field.text c.leadSeen}, y_lead: {field.text c.lateralOffset}, "
    ++ s!"vlat_lead: {field.text c.lateralSpeed}, blinkers: {field.text c.blinkers} \x7d"

namespace MpcReport

def records (report : MpcReport Float) : List LogRecord :=
  acquired ++ started
where
  acquired : List LogRecord :=
    match report.lead, report.newLead with
    | some lead, true =>
        [.debug s!"MPC{report.id} new lead at {fixed 2 lead.distance} m, {fixed 2 lead.speed} m/s"]
    | _, _ => []
  started : List LogRecord :=
    match report.reset, report.resetLogged with
    | some cause, true => [.warning s!"Longitudinal MPC{report.id} reset: {cause.text}"]
    | _, _ => []

end MpcReport

namespace PlannerReport

def records (report : PlannerReport Float) (plan : Plan Float) : List LogRecord :=
  slowing ++ report.mpc1.records ++ report.mpc2.records ++ source ++ collision ++ stale
where
  slowing : List LogRecord :=
    report.limitDecel.toList.map fun decel =>
      .debug s!"Slowing for the limit ahead at {fixed 2 decel} m/s^2"
  source : List LogRecord :=
    if report.enabled && report.sourceChanged then
      [.debug s!"Plan source changed from {report.sourceBefore.label} to {plan.source.label}"]
    else []
  collision : List LogRecord :=
    if plan.collisionWarning then
      [.info (s!"FCW triggered at {fixed 2 report.time} s "
        ++ s!"(min MPC accel {fixed 2 report.warning.lastAccel} m/s^2) {report.warning.counters.text}")]
    else []
  stale : List LogRecord :=
    if Planner.radarTimeout < plan.processingDelay then
      [.debug s!"Radar snapshot is {fixed 3 plan.processingDelay} s old"]
    else []

end PlannerReport
end Headway
