import Headway.Proofs.Planner.SetUp

-- A planner in its session, with the files it writes: a run of everything that may be asked of it. Whatever came
-- before, the parameters in force are ones that passed the check, and the three copies of them agree.
namespace Headway
variable {σ α : Type} [Scalar α]

structure Session (σ α : Type) where
  archived : ArchivedPlanner σ α
  files : ArchivedPlanner.Files α

namespace ArchivedPlanner

theorem start_exact [Solver σ α] {params : Params α} {primary secondary : σ} {archived : ArchivedPlanner σ α} :
    start params primary secondary = .ok archived ↔
      params.check = .ok () ∧ archived = ⟨Planner.fresh params primary secondary,none,.closed,.closed⟩ := by
  unfold start
  constructor
  · intro started
    cases launched : Planner.start params primary secondary with
    | error cause =>
      rw [launched] at started
      cases started
    | ok planner =>
      obtain ⟨passed,rfl⟩ := Planner.start_exact.mp launched
      rw [launched] at started
      cases started
      exact ⟨passed,rfl⟩
  · rintro ⟨passed,rfl⟩
    rw [Planner.start_exact.mpr ⟨passed,rfl⟩]
    rfl

-- Parameters that were swapped, and what that leaves as it was: all of an instance but its parameters, so track,
-- history, weight and solver among them, and all of the planner beside.
structure Reconfigured (before after : ArchivedPlanner σ α) (params : Params α) : Prop where
  inForce : after.planner.params = params
  instances : ∀ side, after.planner.mpc side = { before.planner.mpc side with params := params.mpc }
  recurrence : after.planner.recurrence = before.planner.recurrence
  source : after.planner.source = before.planner.source
  warning : after.planner.warning = before.planner.warning
  last : after.last = before.last
  planArchive : after.planArchive = before.planArchive
  mpcArchive : after.mpcArchive = before.mpcArchive

omit [Scalar α] in
theorem withParams_reconfigured (archived : ArchivedPlanner σ α) (params : Params α) :
    Reconfigured archived (archived.withParams params) params := by
  refine ⟨rfl,?_,rfl,rfl,rfl,rfl,rfl,rfl⟩
  intro side
  cases side <;> rfl

theorem setUp_configured {archived : ArchivedPlanner σ α} (configured : archived.planner.Configured)
    (loaded : Except LoadError (Params α)) (files : Files α) :
    (archived.setUp loaded files).2.1.planner.Configured := by
  have outcome := archived.setUp_cases loaded files
  generalize archived.setUp loaded files = answer at outcome ⊢
  obtain ⟨result,after,left⟩ := answer
  cases outcome with
  | unloaded => exact configured
  | refused => exact configured
  | planShut passed => exact archived.planner.withParams_configured passed
  | mpcShut passed => exact archived.planner.withParams_configured passed
  | quiet passed => exact archived.planner.withParams_configured passed
  | verbose passed => exact archived.planner.withParams_configured passed

end ArchivedPlanner

namespace Session
open ArchivedPlanner

inductive Call (α : Type) where
  | reconfigure (params : Params α)
  | update (input : PlannerInput α)
  | cycle (input : PlannerInput α)
  | setUp (loaded : Except LoadError (Params α))

def Call.ofStep : Planner.Step α → Call α
  | .reconfigure params => .reconfigure params
  | .cycle input => .cycle input

variable [Solver σ α]

def perform (session : Session σ α) : Call α → Session σ α
  | .reconfigure params => { session with archived := session.archived.adopt params }
  | .update input => { session with archived := (session.archived.update input).1 }
  | .cycle input =>
      let (archived,_,_,files) := session.archived.cycle input session.files
      ⟨archived,files⟩
  | .setUp loaded =>
      let (_,archived,files) := session.archived.setUp loaded session.files
      ⟨archived,files⟩

def through (session : Session σ α) (calls : List (Call α)) : Session σ α := calls.foldl perform session

theorem through_keeps (property : Session σ α → Prop) {session : Session σ α} (initial : property session)
    (kept : ∀ session call, property session → property (Session.perform session call)) (calls : List (Call α)) :
    property (session.through calls) := by
  induction calls generalizing session with
  | nil => exact initial
  | cons call rest ih => exact ih (kept session call initial)

theorem perform_reconfigure (session : Session σ α) (params : Params α) :
    session.perform (.reconfigure params) =
      { session with
        archived := { session.archived with planner := session.archived.planner.adopt params } } := by
  rw [← adopt_exact]
  rfl

theorem perform_configured (session : Session σ α) (call : Call α)
    (configured : session.archived.planner.Configured) : (session.perform call).archived.planner.Configured := by
  cases call with
  | reconfigure params =>
    rw [perform_reconfigure]
    exact Planner.adopt_configured configured params
  | update input => exact Planner.update_configured configured input
  | cycle input => exact Planner.update_configured configured input
  | setUp loaded => exact setUp_configured configured loaded session.files

-- A change of parameters is refused by the check alone, which leaves everything as it was, or swaps them and nothing
-- else.
def Reconfigures (session : Session σ α) (asked : Params α) : Prop :=
  match session.archived.reconfigure asked with
  | .error cause => asked.check = .error cause ∧ session.perform (.reconfigure asked) = session
  | .ok next => asked.check = .ok () ∧ Reconfigured session.archived next asked ∧
      session.perform (.reconfigure asked) = { session with archived := next }

theorem always_reconfigures (session : Session σ α) (asked : Params α) : session.Reconfigures asked := by
  unfold Reconfigures
  rw [reconfigure_exact]
  cases verdict : asked.check with
  | error cause =>
    refine ⟨rfl,?_⟩
    change { session with archived := session.archived.adopt asked } = session
    rw [adopt_refused session.archived verdict]
  | ok passed =>
    refine ⟨rfl,withParams_reconfigured session.archived asked,?_⟩
    change { session with archived := session.archived.adopt asked } = _
    rw [adopt_accepted session.archived verdict]

theorem reconfigures_whole {params : Params α} {primary secondary : σ} {archived : ArchivedPlanner σ α}
    (started : ArchivedPlanner.start params primary secondary = .ok archived) (files : Files α)
    (calls : List (Call α)) :
    let reached := (Session.mk archived files).through calls
    reached.archived.planner.Configured ∧ ∀ asked, reached.Reconfigures asked := by
  intro reached
  obtain ⟨passed,rfl⟩ := start_exact.mp started
  exact ⟨through_keeps (fun session => session.archived.planner.Configured)
    (Planner.fresh_configured passed primary secondary) perform_configured calls,reached.always_reconfigures⟩

def wishes : List (Call Float) :=
  [.cycle (Planner.openRoad 20.0),.reconfigure { Params.standard with steerRatio := -1.0 },
    .reconfigure { Params.standard with mode := .sport }]

theorem wishes_reconfigure_whole :
    start Params.standard (⟨[],0.001⟩ : Scripted Float) ⟨[],0.001⟩ = .ok unopened ∧
      let reached := (Session.mk unopened .empty).through wishes
      reached.archived.planner.Configured ∧ ∀ asked, reached.Reconfigures asked :=
  ⟨unopened_start,reconfigures_whole unopened_start .empty wishes⟩

end Session
end Headway
