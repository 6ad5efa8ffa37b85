import Headway.Proofs.Mpc.Simulation

-- What an instance asks of its solver, told by a recorder around the solver.
namespace Headway

def SolverCall.problem? {α : Type} : SolverCall α → Option (Problem α)
  | .solve problem => some problem
  | _ => none

def solves {α : Type} (calls : List (SolverCall α)) : List (Problem α) := calls.filterMap SolverCall.problem?

theorem solves_append {α : Type} (calls more : List (SolverCall α)) :
    solves (calls ++ more) = solves calls ++ solves more := List.filterMap_append

namespace Mpc
open Scalar
variable {σ α : Type} [Scalar α]

def priming (mpc : Mpc σ α) (input : MpcInput α) : List (SolverCall α) :=
  match followed input with
  | some (lead,decay) => if mpc.isNewLead lead then [.prime mpc.speed lead decay] else []
  | none => []

theorem isNewLead_exact (mpc : Mpc σ α) (lead : LeadGeometry α) : mpc.isNewLead lead = true ↔
    mpc.track = none ∨ ∃ distance, mpc.track = some distance ∧ 2.5 < abs (lead.distance - distance) := by
  unfold isNewLead
  cases mpc.track with
  | none => simp
  | some distance =>
    simp only [decide_eq_true_iff,reduceCtorEq,false_or,Option.some.injEq,exists_eq_left']
    rfl

variable [Solver σ α]

def weighing (mpc : Mpc σ α) (input : MpcInput α) : List (SolverCall α) :=
  if mpc.knows (mpc.weightFor input) then [] else [.reweigh (Weights.standardAt (mpc.weightFor input))]

def restarting (report : MpcReport α) : List (SolverCall α) :=
  if report.reset.isSome then [.restart Weights.standard] else []

section Kinds
variable {mpc : Mpc σ α} {input : MpcInput α} {report : MpcReport α} {call : SolverCall α}

omit [Solver σ α] in
theorem mem_priming (member : call ∈ mpc.priming input) : ∃ speed lead decay, call = .prime speed lead decay := by
  unfold priming at member
  split at member
  · split at member
    · exact ⟨_,_,_,List.mem_singleton.mp member⟩
    · cases member
  · cases member

theorem mem_weighing : call ∈ mpc.weighing input ↔
    mpc.knows (mpc.weightFor input) = false ∧ call = .reweigh (Weights.standardAt (mpc.weightFor input)) := by
  unfold weighing
  cases mpc.knows (mpc.weightFor input) <;> simp

theorem mem_restarting (member : call ∈ restarting report) : call = .restart Weights.standard := by
  unfold restarting at member
  split at member
  · exact List.mem_singleton.mp member
  · cases member

omit [Solver σ α] in
theorem priming_solves (mpc : Mpc σ α) (input : MpcInput α) : solves (mpc.priming input) = [] := by
  apply List.filterMap_eq_nil_iff.mpr
  intro call member
  obtain ⟨_,_,_,rfl⟩ := mem_priming member
  rfl

theorem weighing_solves (mpc : Mpc σ α) (input : MpcInput α) : solves (mpc.weighing input) = [] := by
  apply List.filterMap_eq_nil_iff.mpr
  intro call member
  obtain ⟨_,rfl⟩ := mem_weighing.mp member
  rfl

theorem restarting_solves (report : MpcReport α) : solves (restarting report) = [] := by
  apply List.filterMap_eq_nil_iff.mpr
  intro call member
  cases mem_restarting member
  rfl

end Kinds

section Recorded
variable (mpc : Mpc (Recorder σ α) α) (input : MpcInput α)

theorem follow_calls : (mpc.follow input.ego.speed (followed input)).solver.calls =
    mpc.solver.calls ++ mpc.priming input := by
  unfold priming
  rw [follow_frame]
  cases followed input with
  | none => exact (List.append_nil _).symm
  | some lead =>
    dsimp only
    split
    · rfl
    · exact (List.append_nil _).symm

theorem prepared_calls : (mpc.prepared input).solver.calls =
    mpc.solver.calls ++ mpc.priming input ++ mpc.weighing input := by
  have known : ({ mpc.follow input.ego.speed (followed input) with gap := mpc.gapFor input } :
      Mpc (Recorder σ α) α).knows (mpc.weightFor input) = mpc.knows (mpc.weightFor input) := by
    rw [follow_frame]
    rfl
  unfold prepared weighing
  rw [applyWeight_frame,known,← follow_calls]
  dsimp only
  split
  · exact (List.append_nil _).symm
  · rfl

theorem update_calls : (mpc.update input).1.solver.calls =
    mpc.solver.calls ++ mpc.priming input ++ mpc.weighing input ++ [.solve (mpc.posed input)] ++
      restarting (mpc.update input).2 := by
  have solved : (mpc.answered input).2.calls =
      mpc.solver.calls ++ mpc.priming input ++ mpc.weighing input ++ [.solve (mpc.posed input)] := by
    rw [← prepared_calls]
    rfl
  unfold restarting
  rw [update_solver,← solved]
  split
  · rfl
  · exact (List.append_nil _).symm

theorem update_solves : solves (mpc.update input).1.solver.calls =
    solves mpc.solver.calls ++ [mpc.posed input] := by
  rw [update_calls,solves_append,solves_append,solves_append,solves_append,priming_solves,weighing_solves,
    restarting_solves]
  simp [solves,SolverCall.problem?]

end Recorded

theorem priming_primes {mpc : Mpc σ α} {input : MpcInput α} (newLead : (mpc.update input).2.newLead = true) :
    ∃ lead decay, leadOf input = some lead ∧ mpc.priming input = [.prime mpc.speed lead decay] := by
  rw [update_newLead,leadOf] at newLead
  unfold priming leadOf
  cases follows : followed input with
  | none =>
    rw [follows] at newLead
    cases newLead
  | some lead =>
    obtain ⟨lead,decay⟩ := lead
    rw [follows] at newLead
    exact ⟨lead,decay,rfl,if_pos newLead⟩

theorem priming_empty {mpc : Mpc σ α} {input : MpcInput α} (sameLead : (mpc.update input).2.newLead = false) :
    mpc.priming input = [] := by
  rw [update_newLead,leadOf] at sameLead
  unfold priming
  cases follows : followed input with
  | none => rfl
  | some lead =>
    obtain ⟨lead,decay⟩ := lead
    rw [follows] at sameLead
    change mpc.isNewLead lead = false at sameLead
    dsimp only
    rw [if_neg (by simp [sameLead])]

theorem leadOf_phantom {input : MpcInput α} {phantom : Phantom α} (given : input.phantom = some phantom)
    (active : phantom.active = true) :
    leadOf input = some (.ofPhantom phantom (Radar.lead? input.lead) input.ego.speed) := by
  have follows : Phantom.active? input.phantom = some phantom := by simp [Phantom.active?,given,active]
  unfold leadOf followed
  rw [follows]
  rfl

theorem leadOf_track {input : MpcInput α} (inactive : ∀ phantom, input.phantom = some phantom → phantom.active = false) :
    leadOf input = (Radar.lead? input.lead).map .ofTrack := by
  have passes : Phantom.active? input.phantom = none := by
    unfold Phantom.active?
    cases given : input.phantom with
    | none => rfl
    | some phantom => simp [inactive phantom given]
  unfold leadOf followed
  rw [passes]
  cases Radar.lead? input.lead <;> rfl

-- A track is handed on as it stands, but for a lead that is about to stand still.
theorem leadOf_radar {input : MpcInput α} {track : LeadTrack α} (given : input.lead = some track)
    (valid : track.valid = true) (inactive : ∀ phantom, input.phantom = some phantom → phantom.active = false) :
    ∃ lead, leadOf input = some lead ∧ lead.distance = track.distance ∧
      lead.speed = if greater track.speed 0.0 < 0.1 ∨ greater track.speed 0.0 < -track.filteredAccel / 2.0 then 0.0
        else greater track.speed 0.0 := by
  have seen : Radar.lead? input.lead = some track := by simp [Radar.lead?,given,valid]
  refine ⟨.ofTrack track,by rw [leadOf_track inactive,seen]; rfl,?_,?_⟩
  all_goals
    unfold LeadGeometry.ofTrack
    dsimp only
    split <;> rename_i stopped
  · rfl
  · rfl
  · exact (if_pos stopped).symm
  · exact (if_neg stopped).symm

-- One cycle as its solver hears it, after any run. What the previous cycle tracked is told from its own
-- input and report, so that nothing here looks into the instance.
structure Conversation (past : List (MpcInput α × MpcReport α)) (before : Mpc (Recorder σ α) α)
    (input : MpcInput α) (after : Mpc (Recorder σ α) α) (report : MpcReport α)
    (priming weighing restarting : List (SolverCall α)) (problem : Problem α) : Prop where
  calls : after.solver.calls =
    before.solver.calls ++ (priming ++ weighing ++ [.solve problem] ++ restarting)
  primes : report.newLead = true →
    ∃ lead decay, leadOf input = some lead ∧ priming = [.prime before.speed lead decay]
  primesOnly : report.newLead = false → priming = []
  weighs : weighing = [] ∨ ∃ weights, weighing = [.reweigh weights]
  restarts : restarting = if report.reset.isSome then [.restart Weights.standard] else []
  phantom : ∀ phantom, input.phantom = some phantom → phantom.active = true →
    leadOf input = some (.ofPhantom phantom (Radar.lead? input.lead) input.ego.speed)
  tracked : (∀ phantom, input.phantom = some phantom → phantom.active = false) →
    leadOf input = (Radar.lead? input.lead).map .ofTrack
  handed : ∀ track, input.lead = some track → track.valid = true →
    (∀ phantom, input.phantom = some phantom → phantom.active = false) →
      ∃ lead, leadOf input = some lead ∧ lead.distance = track.distance ∧
        lead.speed = if greater track.speed 0.0 < 0.1 ∨ greater track.speed 0.0 < -track.filteredAccel / 2.0 then 0.0
          else greater track.speed 0.0
  newLead : report.newLead = true ↔ ∃ lead, leadOf input = some lead ∧ (lastTracked past = none ∨
    ∃ distance, lastTracked past = some distance ∧ 2.5 < abs (lead.distance - distance))
  track : after.track = if report.reset.isSome then none else (leadOf input).map (·.distance)
  ego : problem.seed.egoPosition = 0.0
  behind : ∀ lead, leadOf input = some lead →
    problem.seed.leadPosition = lead.distance ∧ problem.seed.leadSpeed = lead.speed
  alone : leadOf input = none →
    problem.seed.leadPosition = 50.0 ∧ problem.seed.leadSpeed = input.ego.speed + 10.0

theorem conversation_of_tracked {past : List (MpcInput α × MpcReport α)} (mpc : Mpc (Recorder σ α) α)
    (input : MpcInput α) (tracked : mpc.track = lastTracked past) :
    Conversation past mpc input (mpc.update input).1 (mpc.update input).2 (mpc.priming input)
      (mpc.weighing input) (restarting (mpc.update input).2) (mpc.posed input) where
  calls := by
    rw [update_calls]
    simp only [List.append_assoc]
  primes := priming_primes
  primesOnly := priming_empty
  weighs := by
    unfold weighing
    split
    · exact .inl rfl
    · exact .inr ⟨_,rfl⟩
  restarts := rfl
  phantom _ := leadOf_phantom
  tracked := leadOf_track
  handed _ := leadOf_radar
  newLead := by
    rw [update_newLead,Option.any_eq_true,← tracked]
    constructor
    · rintro ⟨lead,follows,jumped⟩
      exact ⟨lead,follows,(isNewLead_exact mpc lead).mp jumped⟩
    · rintro ⟨lead,follows,jumped⟩
      exact ⟨lead,follows,(isNewLead_exact mpc lead).mpr jumped⟩
  track := update_track mpc input
  ego := congrArg Instant.egoPosition (prepared_seed mpc input)
  behind lead follows := by
    have seed := prepared_seed mpc input
    rw [aim,follows] at seed
    exact ⟨congrArg Instant.leadPosition seed,congrArg Instant.leadSpeed seed⟩
  alone empty := by
    have seed := prepared_seed mpc input
    rw [aim,empty] at seed
    exact ⟨congrArg Instant.leadPosition seed,congrArg Instant.leadSpeed seed⟩

-- The recorder stands around the solver from the start and changes nothing: with it taken off, run and
-- cycle are those of the solver alone.
theorem update_converses (id : Nat) (solver : σ) (params : MpcParams α) (steps : List (Step α))
    (input : MpcInput α) :
    let alone := (Run.start id solver params).through steps
    let recorded := (Run.start id (Recorder.start solver) params).through steps
    let cycle := recorded.mpc.update input
    recorded.seen Recorder.solver = alone ∧
      alone.mpc.update input = (cycle.1.seen Recorder.solver,cycle.2) ∧
      ∃ priming weighing restarting problem,
        Conversation alone.past recorded.mpc input cycle.1 cycle.2 priming weighing restarting problem := by
  intro alone recorded cycle
  have same : recorded.seen Recorder.solver = alone := Run.recorded_seen id solver params steps
  have tracked : recorded.mpc.track = lastTracked recorded.past :=
    Run.through_track id (Recorder.start solver) params steps
  refine ⟨same,?_,recorded.mpc.priming input,recorded.mpc.weighing input,restarting cycle.2,
    recorded.mpc.posed input,?_⟩
  · rw [← same]
    exact update_seen Recorder.simulates recorded.mpc input
  · rw [← same]
    exact conversation_of_tracked recorded.mpc input tracked

end Mpc
end Headway
