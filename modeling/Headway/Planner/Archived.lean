import Headway.Archive
import Headway.Params.Loading
import Headway.Planner

namespace Headway
variable {σ α : Type}

inductive PlannerError (α : Type) where
  | params (cause : LoadError)
  | invalidParams (cause : ParamsError α)
  | archive (cause : ArchiveError)
deriving Repr

def PlannerError.message : PlannerError Float → String
  | .params cause => s!"Could not load the planner parameters: {cause.message}"
  | .invalidParams cause => s!"Invalid planner parameters: {cause.message}"
  | .archive cause => s!"Could not create the planner archives: {cause.message}"

def planRecord (time : α) (plan : Plan α) : Record α :=
  [("time_s", .number time), ("v_cruise", .number plan.cruiseSpeed),
   ("a_cruise", .number plan.cruiseAccel), ("v_start", .number plan.startSpeed),
   ("a_start", .number plan.startAccel), ("v_target", .number plan.targetSpeed),
   ("a_target", .number plan.targetAccel), ("v_target_future", .number plan.futureSpeed),
   ("has_lead", .flag plan.hasLead), ("longitudinal_plan_source", .name plan.source.label),
   ("v_curvature", .number plan.curveSpeed), ("decel_for_turn", .flag plan.slowingAhead),
   ("map_valid", .flag plan.mapUsed), ("radar_valid", .flag plan.radarValid),
   ("radar_comm_issue", .flag plan.radarCommIssue),
   ("processing_delay_s", .number plan.processingDelay), ("fcw", .flag plan.collisionWarning)]

def mpcRecord (time : α) (mpc : Mpc σ α) (report : MpcReport α) : Record α :=
  [("time_s", .number time), ("mpc_id", .count report.id), ("has_lead", .flag report.hasLead),
   ("new_lead", .flag report.newLead), ("tr_s", .number report.gap), ("cost", .number report.weight),
   ("qp_iterations", .count report.iterations), ("solve_time_s", .number report.solveTime),
   ("v_mpc", .number mpc.speed), ("a_mpc", .number mpc.accel),
   ("v_mpc_future", .number mpc.futureSpeed), ("reset", .flag report.reset.isSome),
   ("lead_accel_estimate_mss", .number report.leadAccelEstimate)]

structure CycleRecords (α : Type) where
  plan : Record α
  mpcs : List (Record α)

structure ArchivedPlanner (σ α : Type) where
  planner : Planner σ α
  last : Option (CycleRecords α)
  planArchive : Archiver
  mpcArchive : Archiver

namespace ArchivedPlanner
variable [Scalar α]

abbrev Files (α : Type) := FileTree (Sheet α)

def planPath : Path := ⟨true, ["long_plan", "plan.csv"]⟩
def mpcPath : Path := ⟨true, ["long_plan", "mpc.csv"]⟩

def start [Solver σ α] (params : Params α) (solver1 solver2 : σ) :
    Except (ParamsError α) (ArchivedPlanner σ α) := do
  return ⟨← Planner.start params solver1 solver2, none, .closed, .closed⟩

def reconfigure (archived : ArchivedPlanner σ α) (params : Params α) :
    Except (ParamsError α) (ArchivedPlanner σ α) := do
  return { archived with planner := ← archived.planner.reconfigure params }

def openPlan (archived : ArchivedPlanner σ α) (files : Files α) :
    Except ArchiveError (ArchivedPlanner σ α) × Files α :=
  let (opened, files) := Archiver.create files planPath
  (opened.map fun planArchive => { archived with planArchive }, files)

def openMpc (archived : ArchivedPlanner σ α) (files : Files α) :
    Except ArchiveError (ArchivedPlanner σ α) × Files α :=
  if archived.planner.params.mpc.verbose then
    let (opened, files) := Archiver.create files mpcPath
    (opened.map fun mpcArchive => { archived with mpcArchive }, files)
  else (.ok archived, files)

-- A step that fails ends it, and the steps before it stand.
def setUp (archived : ArchivedPlanner σ α) (loaded : Except LoadError (Params α)) (files : Files α) :
    Except (PlannerError α) Unit × ArchivedPlanner σ α × Files α :=
  match loaded with
  | .error cause => (.error (.params cause), archived, files)
  | .ok params =>
      match archived.reconfigure params with
      | .error cause => (.error (.invalidParams cause), archived, files)
      | .ok configured =>
          match configured.openPlan files with
          | (.error cause, files) => (.error (.archive cause), configured, files)
          | (.ok opened, files) =>
              match opened.openMpc files with
              | (.error cause, files) => (.error (.archive cause), opened, files)
              | (.ok ready, files) => (.ok (), ready, files)

def write (archived : ArchivedPlanner σ α) (files : Files α) : Except ArchiveError (Files α) :=
  match archived.last with
  | none => .ok files
  | some last => do
      let files ←
        if archived.planArchive.isOpen then archived.planArchive.write last.plan files else .ok files
      if archived.mpcArchive.isOpen && archived.planner.params.mpc.verbose then
        last.mpcs.foldlM (fun files record => archived.mpcArchive.write record files) files
      else .ok files

def update [Solver σ α] (archived : ArchivedPlanner σ α) (input : PlannerInput α) :
    ArchivedPlanner σ α × Plan α × PlannerReport α :=
  let (planner, plan, report) := archived.planner.update input
  let last := some ⟨planRecord input.time plan,
    [mpcRecord input.time planner.mpc1 report.mpc1, mpcRecord input.time planner.mpc2 report.mpc2]⟩
  ({ archived with planner, last }, plan, report)

def cycle [Solver σ α] (archived : ArchivedPlanner σ α) (input : PlannerInput α) (files : Files α) :
    ArchivedPlanner σ α × Plan α × PlannerReport α × Files α :=
  let (next, plan, report) := archived.update input
  let files := match next.write files with
    | .ok files => files
    | .error _ => files
  (next, plan, report, files)

end ArchivedPlanner
end Headway
