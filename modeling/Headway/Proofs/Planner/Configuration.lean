import Headway.Proofs.Planner.Run

-- Parameters in force. There are three copies of them, the planner's own and one in each instance, and a change
-- swaps all three or none.
namespace Headway
variable {σ α : Type} [Scalar α]

namespace Planner

def withParams (planner : Planner σ α) (params : Params α) : Planner σ α :=
  { planner with
    params
    mpc1 := { planner.mpc1 with params := params.mpc }
    mpc2 := { planner.mpc2 with params := params.mpc } }

structure Configured (planner : Planner σ α) : Prop where
  accepted : planner.params.check = .ok ()
  shared : ∀ side, (planner.mpc side).params = planner.params.mpc

theorem withParams_configured (planner : Planner σ α) {params : Params α} (passed : params.check = .ok ()) :
    (planner.withParams params).Configured := by
  refine ⟨passed,?_⟩
  intro side
  cases side <;> rfl

theorem reconfigure_exact (planner : Planner σ α) (params : Params α) :
    planner.reconfigure params = params.check.map fun _ => planner.withParams params := by
  unfold reconfigure
  cases params.check with
  | error cause => rfl
  | ok passed => rfl

theorem adopt_configured {planner : Planner σ α} (configured : planner.Configured) (params : Params α) :
    (planner.adopt params).Configured := by
  unfold adopt
  rw [reconfigure_exact]
  cases verdict : params.check with
  | error cause => exact configured
  | ok passed => exact planner.withParams_configured verdict

variable [Solver σ α]

theorem fresh_configured {params : Params α} (passed : params.check = .ok ()) (primary secondary : σ) :
    (fresh params primary secondary).Configured := by
  refine ⟨passed,?_⟩
  intro side
  cases side <;> rfl

theorem update_configured {planner : Planner σ α} (configured : planner.Configured) (input : PlannerInput α) :
    (planner.update input).1.Configured := by
  refine ⟨configured.accepted,?_⟩
  intro side
  rw [update_mpc,Mpc.update_params]
  exact configured.shared side

end Planner

namespace ArchivedPlanner

def withParams (archived : ArchivedPlanner σ α) (params : Params α) : ArchivedPlanner σ α :=
  { archived with planner := archived.planner.withParams params }

theorem reconfigure_exact (archived : ArchivedPlanner σ α) (params : Params α) :
    archived.reconfigure params = params.check.map fun _ => archived.withParams params := by
  unfold reconfigure
  rw [Planner.reconfigure_exact]
  cases params.check with
  | error cause => rfl
  | ok passed => rfl

theorem adopt_refused (archived : ArchivedPlanner σ α) {params : Params α} {cause : ParamsError α}
    (refused : params.check = .error cause) : archived.adopt params = archived := by
  rw [adopt,reconfigure_exact,refused]
  rfl

theorem adopt_accepted (archived : ArchivedPlanner σ α) {params : Params α} (passed : params.check = .ok ()) :
    archived.adopt params = archived.withParams params := by
  rw [adopt,reconfigure_exact,passed]
  rfl

theorem adopt_exact (archived : ArchivedPlanner σ α) (params : Params α) :
    archived.adopt params = { archived with planner := archived.planner.adopt params } := by
  unfold Planner.adopt
  rw [adopt,reconfigure_exact,Planner.reconfigure_exact]
  cases params.check with
  | error cause => rfl
  | ok passed => rfl

end ArchivedPlanner
end Headway
