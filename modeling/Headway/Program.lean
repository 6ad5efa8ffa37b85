import Headway.Params.Loading
import Headway.Replay.Log
import Headway.Solver.Kinematic

namespace Headway

structure Launch where
  arguments : List String
  disk : Disk
  root : Option Path
  workingFolder : Place

inductive RunError where
  | noSession
  | argumentCount (found : Nat)
  | script (cause : ScriptError)
  | planner (cause : PlannerError Float)
  | endless

def RunError.causes : RunError → List String
  | .noSession => ["Failed to create the session", LoadError.message .rootNotSet]
  | .argumentCount found =>
      [s!"Expected exactly one argument (the scenario script), found {found}"]
  | .script cause => ["Failed to load script", cause.message]
  | .planner cause => ["Failed to initialise LongPlanner", cause.message]
  | .endless => ["The script has no end"]

structure Outcome where
  log : List LogRecord
  archives : FileTree (Sheet Float)
  error : Option RunError

def Outcome.succeeded (outcome : Outcome) : Bool := outcome.error.isNone

-- Where the clock is rounded, more than twenty steps may be needed for a second.
def Replay.cyclesFor (duration : Float) : Nat :=
  match Decimal.Parts.of duration with
  | .finite false mantissa exponent _ =>
      let seconds := Decimal.Ratio.binary mantissa exponent
      2 * (World.stepsPerSecond * seconds.num / seconds.den + 1) + 2
  | _ => 0

namespace Program

abbrev Car := ArchivedPlanner (Kinematic Float) Float

def welcome : List LogRecord :=
  [.info "Logging initialised", .info "    Log level: Debug",
   .info "Longitudinal Planner Replay Executable"]

def scriptLoaded (script : Script Float) : List LogRecord :=
  [.info s!"Loaded script lasts {Decimal.fixed 2 script.duration} s and contains {script.length} commands",
   .info "Initialising modules..."]

def modeChange (before after : DriveMode) : List LogRecord :=
  if before = after then []
  else [.info s!"Drive mode changed from {before.label} to {after.label}"]

def plannerReady (mode : DriveMode) : List LogRecord :=
  [.info s!"Longitudinal planner initialised in {mode.label} mode", .info "LongPlanner init complete",
   .info "Module initialisation complete", .info "Begining main loop"]

def replay (told : List LogRecord) (script : Script Float) (planner : Car)
    (archives : FileTree (Sheet Float)) : Outcome :=
  match Replay.play [] (Replay.cyclesFor script.duration) script ⟨.start 0.0, planner, archives⟩ with
  | none => ⟨told, archives, some .endless⟩
  | some (sim, steps) =>
      let log := told ++ steps.flatMap ReplayStep.records
        ++ .info "End of scenario script reached, stopping" :: (Summary.ofSteps steps).records sim.world
      ⟨log, sim.archives, none⟩

def plan (told : List LogRecord) (launch : Launch) (script : Script Float) : Outcome :=
  let told := told ++ scriptLoaded script
  match ArchivedPlanner.start .standard Kinematic.start Kinematic.start with
  | .error cause => ⟨told, .empty, some (.planner (.invalidParams cause))⟩
  | .ok planner =>
      let before := planner.planner.params.mode
      let (result, planner, archives) :=
        planner.setUp (Params.load launch.disk launch.root "long_plan.toml") .empty
      let mode := planner.planner.params.mode
      let told := told ++ modeChange before mode
      match result with
      | .error cause => ⟨told, archives, some (.planner cause)⟩
      | .ok () => replay (told ++ plannerReady mode) script planner archives

def run (launch : Launch) : Outcome :=
  match launch.root, launch.arguments with
  | none, _ => ⟨[], .empty, some .noSession⟩
  | some _, [path] =>
      let told := welcome ++ [.info s!"Loading script from \"{path}\""]
      match Script.load launch.disk launch.workingFolder path with
      | .error cause => ⟨told, .empty, some (.script cause)⟩
      | .ok script => plan told launch script
  | some _, arguments => ⟨welcome, .empty, some (.argumentCount arguments.length)⟩

end Program
end Headway
