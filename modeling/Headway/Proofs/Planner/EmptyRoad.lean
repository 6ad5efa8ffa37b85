import Headway.Proofs.Mpc.Calls
import Headway.Proofs.Planner.Simulation
import Headway.Solver.Kinematic
import Mathlib.Data.List.Forall2

-- A road with nothing to follow. The instances go on solving behind their stand-ins, and whatever becomes
-- of that, faults and starts over included, the plan does not show it, but for the speed further ahead.
namespace Headway
open Scalar
variable {σ τ α : Type}

structure PlannerInput.Empty (input : PlannerInput α) : Prop where
  primary : ∀ track, input.radar.primary = some track → track.valid = false
  secondary : ∀ track, input.radar.secondary = some track → track.valid = false
  phantom : ∀ phantom, input.phantom = some phantom → phantom.active = false

theorem Radar.lead?_none {track : Option (LeadTrack α)} (invalid : ∀ t, track = some t → t.valid = false) :
    Radar.lead? track = none := by
  cases track with
  | none => rfl
  | some t => simp [Radar.lead?,invalid t rfl]

namespace Planner
variable [Scalar α]

theorem leadOf_empty {input : PlannerInput α} (empty : input.Empty) (side : Side) :
    Mpc.leadOf (inputOf input side) = none := by
  have unled : ∀ side, Radar.lead? (inputOf input side).lead = none := by
    intro side
    cases side with
    | primary =>
      change Radar.lead? (Radar.lead? input.radar.primary) = none
      rw [Radar.lead?_none empty.primary]
      rfl
    | secondary =>
      change Radar.lead? (Radar.lead? input.radar.secondary) = none
      rw [Radar.lead?_none empty.secondary]
      rfl
  have inactive : ∀ phantom, (inputOf input side).phantom = some phantom → phantom.active = false := by
    cases side <;> exact empty.phantom
  rw [Mpc.leadOf_track inactive,unled]
  rfl

section Cycle
variable [Solver σ α] (planner : Planner σ α) {input : PlannerInput α} (empty : input.Empty)
include empty

theorem update_untracked (side : Side) : ((planner.update input).1.mpc side).hasLead = false := by
  rw [update_mpc,Mpc.hasLead,Mpc.update_track,leadOf_empty empty]
  split <;> rfl

theorem update_newLead_empty (side : Side) : (reportOf (planner.update input).2.2 side).newLead = false := by
  rw [update_report,Mpc.update_newLead,leadOf_empty empty]
  rfl

theorem chosenOf_empty (cruising : planner.source = .cruise) :
    planner.chosenOf input = ⟨.cruise,(planner.profileOf input).speed,(planner.profileOf input).accel⟩ := by
  have first : (planner.update input).1.mpc1.hasLead = false := planner.update_untracked empty .primary
  have second : (planner.update input).1.mpc2.hasLead = false := planner.update_untracked empty .secondary
  unfold chosenOf chosen candidate?
  rw [first,second,cruising]
  cases input.control.engaged <;> rfl

theorem update_warning_empty :
    (planner.update input).1.warning = planner.warning ∧ (planner.update input).2.2.warningRaw = false := by
  have checked := planner.update_warning input
  have first : (planner.update input).2.2.mpc1.newLead = false := planner.update_newLead_empty empty .primary
  have second : (planner.update input).2.2.mpc2.newLead = false := planner.update_newLead_empty empty .secondary
  have unled : input.radar.primaryLead = none := Radar.lead?_none empty.primary
  unfold checkCollision at checked
  rw [first,second,unled] at checked
  exact ⟨congrArg Prod.fst checked,congrArg Prod.snd checked⟩

end Cycle

-- Two planners over solvers of their own that are alike in all that the solvers have no part in, and have
-- so far followed the cruise side only.
structure Alike (planner : Planner σ α) (other : Planner τ α) : Prop where
  params : planner.params = other.params
  warning : planner.warning = other.warning
  recurrence : planner.recurrence = other.recurrence
  cruising : planner.source = .cruise ∧ other.source = .cruise

theorem Alike.profileOf {planner : Planner σ α} {other : Planner τ α} (alike : Alike planner other)
    (input : PlannerInput α) : planner.profileOf input = other.profileOf input := by
  obtain ⟨params,_,_,_,recurrence,_⟩ := planner
  obtain ⟨_,_,_,_,_,_⟩ := other
  obtain ⟨rfl,_,rfl,rfl,rfl⟩ := alike
  rfl

theorem Alike.adopt {planner : Planner σ α} {other : Planner τ α} (alike : Alike planner other)
    (params : Params α) : Alike (planner.adopt params) (other.adopt params) := by
  obtain ⟨warning,recurrence,source⟩ := planner.adopt_kept params
  obtain ⟨warning',recurrence',source'⟩ := other.adopt_kept params
  refine ⟨?_,?_,?_,?_⟩
  · rw [adopt_params,adopt_params,alike.params]
  · rw [warning,warning',alike.warning]
  · rw [recurrence,recurrence',alike.recurrence]
  · rw [source,source']
    exact alike.cruising

structure CruisesAlike (plan other : Plan α) : Prop where
  same : other = { plan with futureSpeed := other.futureSpeed }
  cruising : plan.source = .cruise ∧ other.source = .cruise
  unled : plan.hasLead = false ∧ other.hasLead = false

variable [Solver σ α] [Solver τ α]

theorem Alike.update {planner : Planner σ α} {other : Planner τ α} (alike : Alike planner other)
    {input : PlannerInput α} (empty : input.Empty) :
    Alike (planner.update input).1 (other.update input).1 ∧
      CruisesAlike (planner.update input).2.1 (other.update input).2.1 := by
  have profile := alike.profileOf input
  obtain ⟨warning,raw⟩ := planner.update_warning_empty empty
  obtain ⟨warning',raw'⟩ := other.update_warning_empty empty
  have chosen := planner.chosenOf_empty empty alike.cruising.1
  have chosen' := other.chosenOf_empty empty alike.cruising.2
  have tracking : (planner.update input).1.mpc1.hasLead = false := planner.update_untracked empty .primary
  have tracking' : (other.update input).1.mpc1.hasLead = false := other.update_untracked empty .primary
  have sources : (planner.chosenOf input).source = .cruise ∧ (other.chosenOf input).source = .cruise :=
    ⟨congrArg Candidate.source chosen,congrArg Candidate.source chosen'⟩
  refine ⟨⟨alike.params,?_,?_,sources⟩,?_,sources,tracking,tracking'⟩
  · rw [warning,warning',alike.warning]
  · change (planner.profileOf input).seed.advance (planner.chosenOf input).accel =
      (other.profileOf input).seed.advance (other.chosenOf input).accel
    rw [chosen,chosen',profile]
  · rw [update_plan,update_plan,chosen,chosen',tracking,tracking',raw,raw',profile,alike.params]
    rfl

theorem Alike.plans {planner : Planner σ α} {other : Planner τ α} (alike : Alike planner other)
    {steps : List (Step α)} (empty : ∀ input, .cycle input ∈ steps → input.Empty) :
    List.Forall₂ CruisesAlike (planner.plans steps) (other.plans steps) := by
  induction steps generalizing planner other with
  | nil => exact .nil
  | cons step rest ih =>
    have later : ∀ input, .cycle input ∈ rest → input.Empty :=
      fun input member => empty input (List.mem_cons_of_mem _ member)
    cases step with
    | reconfigure params => exact ih (alike.adopt params) later
    | cycle input =>
      obtain ⟨after,same⟩ := alike.update (empty input List.mem_cons_self)
      exact .cons same (ih after later)

section Unprimed

def Unprimed (calls : List (SolverCall α)) : Prop := ∀ speed lead decay, .prime speed lead decay ∉ calls

theorem update_unprimed (planner : Planner (Recorder σ α) α) {input : PlannerInput α} (empty : input.Empty)
    (side : Side) (unprimed : Unprimed (planner.mpc side).solver.calls) :
    Unprimed ((planner.update input).1.mpc side).solver.calls := by
  have sameLead := planner.update_newLead_empty empty side
  rw [update_report] at sameLead
  have past : (planner.seeded input (planner.mpc side)).solver.calls = (planner.mpc side).solver.calls := rfl
  rw [update_mpc,Mpc.update_calls,Mpc.priming_empty sameLead,past]
  intro speed lead decay member
  simp only [List.append_nil,List.mem_append,List.mem_singleton,reduceCtorEq,or_false] at member
  rcases member with (before | weighs) | restarts
  · exact unprimed speed lead decay before
  · cases (Mpc.mem_weighing.mp weighs).2
  · cases Mpc.mem_restarting restarts

theorem through_unprimed {planner : Planner (Recorder σ α) α} {steps : List (Step α)}
    (empty : ∀ input, .cycle input ∈ steps → input.Empty) (side : Side)
    (unprimed : Unprimed (planner.mpc side).solver.calls) :
    Unprimed ((planner.through steps).mpc side).solver.calls := by
  refine through_keeps (fun later : Planner (Recorder σ α) α => Unprimed (later.mpc side).solver.calls) unprimed ?_
  intro later step member unprimed
  cases step with
  | reconfigure params =>
    change Unprimed ((later.adopt params).mpc side).solver.calls
    rw [adopt_solver]
    exact unprimed
  | cycle input => exact later.update_unprimed (empty input member) side unprimed

-- The run as its two solvers hear it, and not one call that announces a lead among theirs.
def NeverPrimes (params : Params α) (primary secondary : σ) (planner : Planner σ α)
    (steps : List (Step α)) : Prop :=
  ∃ recorded : Planner (Recorder σ α) α,
    start params (Recorder.start primary) (Recorder.start secondary) = .ok recorded ∧
    (recorded.through steps).seen Recorder.solver = planner.through steps ∧
    ∀ side, Unprimed ((recorded.through steps).mpc side).solver.calls

theorem fresh_neverPrimes {params : Params α} (accepted : params.check = .ok ()) (primary secondary : σ)
    {steps : List (Step α)} (empty : ∀ input, .cycle input ∈ steps → input.Empty) :
    NeverPrimes params primary secondary (fresh params primary secondary) steps := by
  refine ⟨fresh params (Recorder.start primary) (Recorder.start secondary),start_exact.mpr ⟨accepted,rfl⟩,?_,?_⟩
  · rw [← through_seen Recorder.simulates]
    rfl
  · intro side
    apply through_unprimed empty
    cases side <;> simp [Unprimed,fresh,mpc,Mpc.start,Solver.restart,Recorder.start]

end Unprimed

-- On an empty road the solvers, whatever they answer, have no part in the plan.
theorem plans_independent_of_solvers {params : Params α} {primary secondary : σ} {primary' secondary' : τ}
    {planner : Planner σ α} {other : Planner τ α} {steps : List (Step α)}
    (started : start params primary secondary = .ok planner)
    (begun : start params primary' secondary' = .ok other)
    (empty : ∀ input, .cycle input ∈ steps → input.Empty) :
    List.Forall₂ CruisesAlike (planner.plans steps) (other.plans steps) ∧
      NeverPrimes params primary secondary planner steps ∧ NeverPrimes params primary' secondary' other steps := by
  obtain ⟨accepted,rfl⟩ := start_exact.mp started
  obtain ⟨_,rfl⟩ := start_exact.mp begun
  have alike : Alike (fresh params primary secondary : Planner σ α) (fresh params primary' secondary' : Planner τ α) :=
    ⟨rfl,rfl,rfl,rfl,rfl⟩
  exact ⟨alike.plans empty,fresh_neverPrimes accepted primary secondary empty,
    fresh_neverPrimes accepted primary' secondary' empty⟩

def lostLead (speed : Float) : PlannerInput Float :=
  { openRoad speed with
    radar := ⟨some ⟨false,8.0,1.0,1.0,-3.0,0.0,0.0,1.5,1.0⟩,none,[],0.0⟩
    phantom := some ⟨false,0.0,true⟩ }

def lostLeadRun : List (Step Float) := [.cycle (lostLead 20.0),.cycle (lostLead 21.0)]

theorem lostLeadRun_empty (input : PlannerInput Float) (member : .cycle input ∈ lostLeadRun) : input.Empty := by
  simp only [lostLeadRun,List.mem_cons,Step.cycle.injEq,List.not_mem_nil,or_false] at member
  rcases member with rfl | rfl
  · exact ⟨fun _ there => by cases there; rfl,nofun,fun _ there => by cases there; rfl⟩
  · exact ⟨fun _ there => by cases there; rfl,nofun,fun _ there => by cases there; rfl⟩

def failing : Scripted Float :=
  ⟨[.error (.failed "no solution"),.ok ⟨.ramp (0.0 / 0.0) 0.0 50.0,1⟩,.ok ⟨.none,0⟩],0.001⟩

def amidFaults : Planner (Scripted Float) Float := fresh .standard failing failing

def faultless : Planner (Kinematic Float) Float := fresh .standard .start .start

theorem plans_amid_faults :
    start .standard failing failing = .ok amidFaults ∧ start .standard .start .start = .ok faultless ∧
      (∀ input, .cycle input ∈ lostLeadRun → input.Empty) ∧
      List.Forall₂ CruisesAlike (amidFaults.plans lostLeadRun) (faultless.plans lostLeadRun) ∧
      NeverPrimes .standard failing failing amidFaults lostLeadRun ∧
      NeverPrimes .standard .start .start faultless lostLeadRun := by
  have accepted : (Params.standard : Params Float).check = .ok () := rfl
  have started : start .standard failing failing = .ok amidFaults := start_exact.mpr ⟨accepted,rfl⟩
  have begun : start .standard .start .start = .ok faultless := start_exact.mpr ⟨accepted,rfl⟩
  exact ⟨started,begun,lostLeadRun_empty,plans_independent_of_solvers started begun lostLeadRun_empty⟩

end Planner
end Headway
