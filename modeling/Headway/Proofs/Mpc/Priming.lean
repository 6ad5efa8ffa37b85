import Headway.Params
import Headway.Proofs.Mpc.Calls
import Headway.Solver.Scripted

-- A solver is primed with the next speed as the cycle before foresaw it, and not with a reading.
namespace Headway.Mpc
open Scalar
variable {σ α : Type} [Scalar α]

-- The speed that the course holds for the next instant, after a start over the ego's own, before any cycle a standstill.
def foreseen (run : Run σ α) : Option α :=
  match run.past with
  | [] => some 0.0
  | (input,report) :: _ =>
      if report.reset.isSome then some input.ego.speed else (run.mpc.course.instant? 1).map (·.egoSpeed)

variable [Solver σ α]

theorem update_foreseen (mpc : Mpc σ α) (past : List (MpcInput α × MpcReport α)) (input : MpcInput α) :
    foreseen ⟨(mpc.update input).1,(input,(mpc.update input).2) :: past⟩ = some (mpc.update input).1.speed := by
  unfold foreseen
  dsimp only
  cases reset : (mpc.update input).2.reset with
  | some cause =>
    rw [update_state,reset]
    rfl
  | none =>
    obtain ⟨solution,next,ahead,outcome,_⟩ := (reset_none_exact mpc input).mp reset
    obtain ⟨course,speed,_⟩ := update_kept mpc input reset outcome
    rw [course,speed,(judge_ok outcome).1]
    rfl

theorem step_foreseen (run : Run σ α) (step : Step α) (known : foreseen run = some run.mpc.speed) :
    foreseen (run.step step) = some (run.step step).mpc.speed := by
  cases step with
  | reseed speed accel => exact known
  | adopt params => exact known
  | cycle input => exact update_foreseen run.mpc run.past input

theorem Run.through_foreseen (id : Nat) (solver : σ) (params : MpcParams α) (steps : List (Step α)) :
    foreseen ((start id solver params).through steps) = some ((start id solver params).through steps).mpc.speed :=
  through_keeps (fun run => foreseen run = some run.mpc.speed) rfl step_foreseen steps

omit [Solver σ α] in
theorem mem_priming_exact (mpc : Mpc σ α) (input : MpcInput α) {speed decay : α} {lead : LeadGeometry α} :
    .prime speed lead decay ∈ mpc.priming input ↔
      followed input = some (lead,decay) ∧ mpc.isNewLead lead = true ∧ speed = mpc.speed := by
  unfold priming
  cases followed input with
  | none => simp
  | some follows =>
    obtain ⟨other,decay'⟩ := follows
    by_cases jumped : mpc.isNewLead other = true
    · simp only [if_pos jumped,List.mem_singleton,SolverCall.prime.injEq,Option.some.injEq,Prod.mk.injEq]
      constructor
      · rintro ⟨rfl,rfl,rfl⟩
        exact ⟨⟨rfl,rfl⟩,jumped,rfl⟩
      · rintro ⟨⟨rfl,rfl⟩,_,rfl⟩
        exact ⟨rfl,rfl,rfl⟩
    · simp only [if_neg jumped,List.not_mem_nil,false_iff]
      rintro ⟨same,jumped',_⟩
      cases same
      exact jumped jumped'

section Recorded
variable (mpc : Mpc (Recorder σ α) α) (input : MpcInput α)

theorem primes_exact {speed decay : α} {lead : LeadGeometry α} :
    .prime speed lead decay ∈ mpc.priming input ++ mpc.weighing input ++
        .solve (mpc.posed input) :: restarting (mpc.update input).2 ↔
      followed input = some (lead,decay) ∧ (mpc.update input).2.newLead = true ∧ speed = mpc.speed := by
  have weighs : .prime speed lead decay ∉ mpc.weighing input := by
    intro member
    cases (mem_weighing.mp member).2
  have restarts : .prime speed lead decay ∉ restarting (mpc.update input).2 := by
    intro member
    cases mem_restarting member
  have appears (follows : followed input = some (lead,decay)) :
      (mpc.update input).2.newLead = mpc.isNewLead lead := by
    rw [update_newLead,leadOf,follows]
    rfl
  simp only [List.mem_append,List.mem_cons,reduceCtorEq,weighs,restarts,or_false,mem_priming_exact]
  exact and_congr_right fun follows => by rw [appears follows]

end Recorded

-- The speed is that of the ego exactly where the ego's was foreseen.
structure Primed (run : Run σ α) (input : MpcInput α) (report : MpcReport α) (calls : List (SolverCall α)) : Prop where
  primes : ∀ speed lead decay, .prime speed lead decay ∈ calls ↔
    followed input = some (lead,decay) ∧ report.newLead = true ∧ foreseen run = some speed
  announced : report.newLead = true → ∃ speed lead decay, .prime speed lead decay ∈ calls
  own : (∀ speed lead decay, .prime speed lead decay ∈ calls → speed = input.ego.speed) ↔
    (report.newLead = true → foreseen run = some input.ego.speed)

theorem primed_of_foreseen {run : Run σ α} (mpc : Mpc (Recorder σ α) α) (input : MpcInput α)
    (known : foreseen run = some mpc.speed) :
    Primed run input (mpc.update input).2 (mpc.priming input ++ mpc.weighing input ++
      .solve (mpc.posed input) :: restarting (mpc.update input).2) := by
  have announced (newLead : (mpc.update input).2.newLead = true) : ∃ lead decay, .prime mpc.speed lead decay ∈
      mpc.priming input ++ mpc.weighing input ++ .solve (mpc.posed input) :: restarting (mpc.update input).2 := by
    have jumped := newLead
    rw [update_newLead,Option.any_eq_true] at jumped
    obtain ⟨_,leads,_⟩ := jumped
    obtain ⟨⟨lead,decay⟩,follows,_⟩ := Option.map_eq_some_iff.mp leads
    exact ⟨lead,decay,(primes_exact mpc input).mpr ⟨follows,newLead,rfl⟩⟩
  refine ⟨?_,fun newLead => ⟨_,announced newLead⟩,?_,?_⟩
  · intro speed lead decay
    rw [primes_exact,known,Option.some.injEq,eq_comm (a := speed)]
  · intro same newLead
    obtain ⟨lead,decay,member⟩ := announced newLead
    rw [known,same _ lead decay member]
  · intro foresees speed lead decay member
    obtain ⟨_,newLead,rfl⟩ := (primes_exact mpc input).mp member
    exact Option.some.inj (known.symm.trans (foresees newLead))

theorem update_primed (id : Nat) (solver : σ) (params : MpcParams α) (steps : List (Step α)) (input : MpcInput α) :
    let alone := (Run.start id solver params).through steps
    let recorded := (Run.start id (Recorder.start solver) params).through steps
    let cycle := recorded.mpc.update input
    recorded.seen Recorder.solver = alone ∧
      alone.mpc.update input = (cycle.1.seen Recorder.solver,cycle.2) ∧
      ∃ calls, cycle.1.solver.calls = recorded.mpc.solver.calls ++ calls ∧ Primed alone input cycle.2 calls := by
  intro alone recorded cycle
  have same : recorded.seen Recorder.solver = alone := Run.recorded_seen id solver params steps
  have known : foreseen alone = some recorded.mpc.speed := by
    rw [← same]
    exact Run.through_foreseen id (Recorder.start solver) params steps
  refine ⟨same,?_,recorded.mpc.priming input ++ recorded.mpc.weighing input ++
    .solve (recorded.mpc.posed input) :: restarting cycle.2,?_,primed_of_foreseen recorded.mpc input known⟩
  · rw [← same]
    exact update_seen Recorder.simulates recorded.mpc input
  · simp only [cycle,update_calls,List.append_assoc,List.singleton_append]

def unstarted : Mpc (Recorder (Scripted Float) Float) Float := .start 1 (Recorder.start ⟨[],0.001⟩) .standard

theorem first_lead_primed_at_rest :
    (unstarted.update leadAhead).2.newLead = true ∧ leadAhead.ego.speed = 20.0 ∧
      (unstarted.update leadAhead).1.solver.calls.any (fun call => match call with
        | .prime speed _ _ => speed ≤ 0.0
        | _ => false) = true :=
  ⟨by decide +kernel,rfl,by decide +kernel⟩

end Headway.Mpc
