import Headway.Proofs.Planner.Configuration

-- Setting up takes four steps that can fail, and each writes its part as soon as it has succeeded.
namespace Headway
variable {σ α : Type} [Scalar α]

namespace ArchivedPlanner

-- The ways through a set-up, by the first step that fails.
inductive SetUp (archived : ArchivedPlanner σ α) (files : Files α) : Except LoadError (Params α) →
    Except (PlannerError α) Unit → ArchivedPlanner σ α → Files α → Prop where
  | unloaded : SetUp archived files (.error cause) (.error (.params cause)) archived files
  | refused : params.check = .error cause →
      SetUp archived files (.ok params) (.error (.invalidParams cause)) archived files
  | planShut : params.check = .ok () → Archiver.create files planPath = (.error cause,left) →
      SetUp archived files (.ok params) (.error (.archive cause)) (archived.withParams params) left
  | mpcShut : params.check = .ok () → Archiver.create files planPath = (.ok opened,between) →
      params.mpc.verbose = true → Archiver.create between mpcPath = (.error cause,left) →
      SetUp archived files (.ok params) (.error (.archive cause))
        { archived.withParams params with planArchive := opened } left
  | quiet : params.check = .ok () → Archiver.create files planPath = (.ok opened,left) →
      params.mpc.verbose = false →
      SetUp archived files (.ok params) (.ok ()) { archived.withParams params with planArchive := opened } left
  | verbose : params.check = .ok () → Archiver.create files planPath = (.ok opened,between) →
      params.mpc.verbose = true → Archiver.create between mpcPath = (.ok second,left) →
      SetUp archived files (.ok params) (.ok ())
        { archived.withParams params with planArchive := opened, mpcArchive := second } left

theorem setUp_cases (archived : ArchivedPlanner σ α) (loaded : Except LoadError (Params α)) (files : Files α) :
    SetUp archived files loaded (archived.setUp loaded files).1 (archived.setUp loaded files).2.1
      (archived.setUp loaded files).2.2 := by
  cases loaded with
  | error cause => exact .unloaded
  | ok params =>
    unfold setUp
    dsimp only
    rw [reconfigure_exact]
    cases passed : params.check with
    | error cause => exact .refused passed
    | ok =>
      dsimp only [Except.map,openPlan]
      cases plan : Archiver.create files planPath with
      | mk opened between =>
        cases opened with
        | error cause => exact .planShut passed plan
        | ok opened =>
          dsimp only [openMpc]
          rw [show (archived.withParams params).planner.params.mpc.verbose = params.mpc.verbose from rfl]
          cases wanted : params.mpc.verbose with
          | false => exact .quiet passed plan wanted
          | true =>
            cases mpc : Archiver.create between mpcPath with
            | mk second left =>
              cases second with
              | error cause => exact .mpcShut passed plan wanted mpc
              | ok second => exact .verbose passed plan wanted mpc

-- Left behind an archive that could not be opened: all three copies of the new parameters are in force.
structure HalfSetUp (archived : ArchivedPlanner σ α) (files : Files α) (params : Params α) (cause : ArchiveError)
    (after : ArchivedPlanner σ α) : Prop where
  accepted : params.check = .ok ()
  inForce : after.planner = archived.planner.withParams params
  last : after.last = archived.last
  mpcArchive : after.mpcArchive = archived.mpcArchive
  planArchive :
    ((Archiver.create files planPath).1 = .error cause ∧ after.planArchive = archived.planArchive) ∨
      ((Archiver.create files planPath).1 = .ok after.planArchive ∧ params.mpc.verbose = true ∧
        (Archiver.create (Archiver.create files planPath).2 mpcPath).1 = .error cause)

def Remains (archived : ArchivedPlanner σ α) (loaded : Except LoadError (Params α)) (files : Files α)
    (after : ArchivedPlanner σ α) : PlannerError α → Prop
  | .params cause => loaded = .error cause ∧ after = archived
  | .invalidParams cause => ∃ params, loaded = .ok params ∧ params.check = .error cause ∧ after = archived
  | .archive cause => ∃ params, loaded = .ok params ∧ HalfSetUp archived files params cause after

theorem setUp_remains {archived : ArchivedPlanner σ α} {loaded : Except LoadError (Params α)} {files : Files α}
    {cause : PlannerError α} (failed : (archived.setUp loaded files).1 = .error cause) :
    Remains archived loaded files (archived.setUp loaded files).2.1 cause := by
  have outcome := archived.setUp_cases loaded files
  generalize archived.setUp loaded files = answer at outcome failed ⊢
  obtain ⟨result,after,left⟩ := answer
  cases failed
  cases outcome with
  | unloaded => exact ⟨rfl,rfl⟩
  | refused verdict => exact ⟨_,rfl,verdict,rfl⟩
  | planShut passed plan => exact ⟨_,rfl,passed,rfl,rfl,rfl,.inl ⟨congrArg Prod.fst plan,rfl⟩⟩
  | mpcShut passed plan wanted mpc =>
    refine ⟨_,rfl,passed,rfl,rfl,rfl,.inr ⟨congrArg Prod.fst plan,wanted,?_⟩⟩
    rw [plan,mpc]

def unopened : ArchivedPlanner (Scripted Float) Float := ⟨Planner.scripted [] [],none,.closed,.closed⟩

def blocked : Files Float := FileTree.empty.put ["long_plan"] (.file .empty)

def sporty : Except LoadError (Params Float) := Params.parse "drive_mode = \"sport\""

def refusal? : Except (PlannerError α) Unit → Option ArchiveError
  | .error (.archive cause) => some cause
  | _ => none

omit [Scalar α] in
theorem refusal?_some {result : Except (PlannerError α) Unit} {cause : ArchiveError}
    (refused : refusal? result = some cause) : result = .error (.archive cause) := by
  unfold refusal? at refused
  split at refused
  · cases refused
    rfl
  · cases refused

theorem unopened_start :
    start Params.standard (⟨[],0.001⟩ : Scripted Float) ⟨[],0.001⟩ = .ok unopened := by
  rw [start,Planner.scripted_start]
  rfl

theorem blocked_fails : (unopened.setUp sporty blocked).1 = .error (.archive .cannotOpen) :=
  refusal?_some (by decide +kernel)

theorem setUp_half_done :
    start Params.standard (⟨[],0.001⟩ : Scripted Float) ⟨[],0.001⟩ = .ok unopened ∧
      (unopened.setUp sporty blocked).1 = .error (.archive .cannotOpen) ∧
      unopened.planner.params.mode = .standard ∧ (unopened.setUp sporty blocked).2.1.planner.params.mode = .sport :=
  ⟨unopened_start,blocked_fails,rfl,by decide +kernel⟩

theorem blocked_setUp_remains :
    (unopened.setUp sporty blocked).1 = .error (.archive .cannotOpen) ∧
      Remains unopened sporty blocked (unopened.setUp sporty blocked).2.1 (.archive .cannotOpen) :=
  ⟨blocked_fails,setUp_remains blocked_fails⟩

end ArchivedPlanner
end Headway
