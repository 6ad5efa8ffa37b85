import Headway.Proofs.Mpc.Calls

-- The weight an instance takes its solver to have is a copy: every call that hands weights over has to move both.
namespace Headway

def SolverCall.weights? {α : Type} : SolverCall α → Option (Weights α)
  | .restart weights | .reweigh weights => some weights
  | .prime _ _ _ | .solve _ => none

def lastWeighing {α : Type} (calls : List (SolverCall α)) : Option (SolverCall α) :=
  (calls.filter (·.weights?.isSome)).getLast?

theorem lastWeighing_append {α : Type} (calls more : List (SolverCall α)) :
    lastWeighing (calls ++ more) = (lastWeighing more).or (lastWeighing calls) := by
  unfold lastWeighing
  rw [List.filter_append,List.getLast?_append]

namespace Mpc
open Scalar
variable {σ α : Type} [Scalar α]

-- A solver that was started over has the standard weights, and of those nothing is remembered.
def Remembers (mpc : Mpc (Recorder σ α) α) : Prop :=
  lastWeighing mpc.solver.calls = some (match mpc.weight with
    | some weight => .reweigh (Weights.standardAt weight)
    | none => .restart Weights.standard)

def SameWeight (held weight : α) : Prop := held = weight ∨ (held == weight) = true

theorem lastWeighing_priming (mpc : Mpc σ α) (input : MpcInput α) : lastWeighing (mpc.priming input) = none := by
  have unweighed : (mpc.priming input).filter (·.weights?.isSome) = [] := by
    apply List.filter_eq_nil_iff.mpr
    intro call member
    obtain ⟨_,_,_,rfl⟩ := mem_priming member
    exact Bool.false_ne_true
  unfold lastWeighing
  rw [unweighed]
  rfl

theorem knows_exact (mpc : Mpc σ α) (weight : α) :
    mpc.knows weight = true ↔ ∃ held, mpc.weight = some held ∧ (held == weight) = true := by
  unfold knows
  cases mpc.weight <;> simp

variable [Solver σ α]

section Frame
variable (mpc : Mpc σ α) (input : MpcInput α)

theorem prepared_weight : (mpc.prepared input).weight =
    if mpc.knows (mpc.weightFor input) then mpc.weight else some (mpc.weightFor input) := by
  unfold prepared
  rw [applyWeight_frame,follow_frame]
  rfl

theorem prepared_chosen :
    ∃ held, (mpc.prepared input).weight = some held ∧ SameWeight held (mpc.weightFor input) := by
  rw [prepared_weight]
  by_cases known : mpc.knows (mpc.weightFor input) = true
  · rw [if_pos known]
    exact (mpc.knows_exact _).mp known |>.imp fun held facts => ⟨facts.1,.inr facts.2⟩
  · rw [if_neg known]
    exact ⟨_,rfl,.inl rfl⟩

theorem update_weight : (mpc.update input).1.weight =
    if (mpc.update input).2.reset.isSome then none else (mpc.prepared input).weight := by
  rw [update_state]
  split
  · rfl
  · rw [settled,settle_frame]

end Frame

section Recorded
variable {mpc : Mpc (Recorder σ α) α}

theorem prepared_remembers (remembers : mpc.Remembers) (input : MpcInput α) :
    (mpc.prepared input).Remembers := by
  unfold Remembers
  rw [prepared_calls,prepared_weight,lastWeighing_append,lastWeighing_append,lastWeighing_priming]
  unfold weighing
  cases mpc.knows (mpc.weightFor input) with
  | true => exact remembers
  | false => rfl

theorem update_remembers (remembers : mpc.Remembers) (input : MpcInput α) : (mpc.update input).1.Remembers := by
  have before := prepared_remembers remembers input
  unfold Remembers at before ⊢
  rw [prepared_calls] at before
  rw [update_calls,update_weight,lastWeighing_append,lastWeighing_append,before]
  unfold restarting
  cases (mpc.update input).2.reset with
  | none => rfl
  | some cause => rfl

end Recorded

theorem Run.through_remembers (id : Nat) (solver : σ) (params : MpcParams α) (steps : List (Step α)) :
    ((Run.start id (Recorder.start solver) params).through steps).mpc.Remembers := by
  refine Run.through_keeps (fun run => run.mpc.Remembers) ?_ ?_ steps
  · rfl
  · intro run step remembers
    cases step with
    | reseed speed accel => exact remembers
    | adopt params => exact remembers
    | cycle input => exact update_remembers remembers input

def weightsInForce (calls : List (SolverCall α)) : Option (Weights α) :=
  (lastWeighing calls).bind SolverCall.weights?

-- The solver is told of a weight exactly when it was started over since it was last told of one, or when that was another.
structure Weighed (past ahead : List (SolverCall α)) (problem : Problem α) (behind : List (SolverCall α))
    (weight : α) : Prop where
  once : solves ahead = [] ∧ solves behind = []
  inForce : ∃ held, weightsInForce (past ++ ahead) = some (Weights.standardAt held) ∧ SameWeight held weight
  tells : ∀ weights, .reweigh weights ∈ ahead ++ .solve problem :: behind → weights = Weights.standardAt weight
  spares : (∃ weights, .reweigh weights ∈ ahead ++ .solve problem :: behind) ↔
    lastWeighing past = some (.restart Weights.standard) ∨
      ∃ held, lastWeighing past = some (.reweigh (Weights.standardAt held)) ∧ (held == weight) = false

section Recorded
variable {mpc : Mpc (Recorder σ α) α} {input : MpcInput α}

theorem reweigh_mem {weights : Weights α} :
    .reweigh weights ∈ mpc.priming input ++ mpc.weighing input ++
        .solve (mpc.posed input) :: restarting (mpc.update input).2 ↔
      mpc.knows (mpc.weightFor input) = false ∧ weights = Weights.standardAt (mpc.weightFor input) := by
  have primes : .reweigh weights ∉ mpc.priming input := by
    intro member
    obtain ⟨_,_,_,absurd⟩ := mem_priming member
    cases absurd
  have restarts : .reweigh weights ∉ restarting (mpc.update input).2 := by
    intro member
    cases mem_restarting member
  simp only [List.mem_append,List.mem_cons,primes,restarts,mem_weighing,SolverCall.reweigh.injEq,reduceCtorEq,false_or,
    or_false]

omit [Solver σ α] in
theorem unknown_exact (remembers : mpc.Remembers) (weight : α) : mpc.knows weight = false ↔
    lastWeighing mpc.solver.calls = some (.restart Weights.standard) ∨
      ∃ held, lastWeighing mpc.solver.calls = some (.reweigh (Weights.standardAt held)) ∧
        (held == weight) = false := by
  unfold Remembers at remembers
  rw [remembers]
  unfold knows
  cases mpc.weight with
  | none => simp
  | some held =>
    simp only [reduceCtorEq,Option.some.injEq,SolverCall.reweigh.injEq,false_or]
    constructor
    · intro apart
      exact ⟨held,rfl,apart⟩
    · rintro ⟨other,same,apart⟩
      cases congrArg Weights.distance same
      exact apart

theorem prepared_inForce (remembers : mpc.Remembers) :
    ∃ held, weightsInForce (mpc.prepared input).solver.calls = some (Weights.standardAt held) ∧
      SameWeight held (mpc.weightFor input) := by
  obtain ⟨held,chosen,same⟩ := mpc.prepared_chosen input
  have after := prepared_remembers remembers input
  unfold Remembers at after
  rw [chosen] at after
  refine ⟨held,?_,same⟩
  unfold weightsInForce
  rw [after]
  rfl

theorem weighed_of_remembers (remembers : mpc.Remembers) :
    Weighed mpc.solver.calls (mpc.priming input ++ mpc.weighing input) (mpc.posed input)
      (restarting (mpc.update input).2) (mpc.update input).2.weight where
  once := by
    rw [solves_append,priming_solves,weighing_solves]
    exact ⟨rfl,restarting_solves _⟩
  inForce := by
    rw [← List.append_assoc,← prepared_calls]
    exact prepared_inForce remembers
  tells weights member := (reweigh_mem.mp member).2
  spares := by
    rw [← unknown_exact remembers]
    simp only [reweigh_mem]
    exact ⟨fun ⟨_,unknown,_⟩ => unknown,fun unknown => ⟨_,unknown,rfl⟩⟩

end Recorded

theorem update_weighed (id : Nat) (solver : σ) (params : MpcParams α) (steps : List (Step α))
    (input : MpcInput α) :
    let alone := (Run.start id solver params).through steps
    let recorded := (Run.start id (Recorder.start solver) params).through steps
    let cycle := recorded.mpc.update input
    recorded.seen Recorder.solver = alone ∧
      alone.mpc.update input = (cycle.1.seen Recorder.solver,cycle.2) ∧
      ∃ ahead problem behind,
        cycle.1.solver.calls = recorded.mpc.solver.calls ++ (ahead ++ .solve problem :: behind) ∧
        Weighed recorded.mpc.solver.calls ahead problem behind cycle.2.weight := by
  intro alone recorded cycle
  have same : recorded.seen Recorder.solver = alone := Run.recorded_seen id solver params steps
  refine ⟨same,?_,recorded.mpc.priming input ++ recorded.mpc.weighing input,recorded.mpc.posed input,
    restarting cycle.2,?_,weighed_of_remembers (Run.through_remembers id solver params steps)⟩
  · rw [← same]
    exact update_seen Recorder.simulates recorded.mpc input
  · simp only [cycle,update_calls,List.append_assoc,List.singleton_append]

end Mpc
end Headway
