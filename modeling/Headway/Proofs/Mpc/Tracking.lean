import Headway.Params
import Headway.Proofs.Double.Monotone
import Headway.Proofs.Mpc.Cycle
import Headway.Solver.Scripted

-- When an instance ends a cycle tracking a lead, and what the course it keeps may then hold. An answer is looked
-- through for what is no number; an infinity is one, and passes.
namespace Headway.Mpc
open Scalar Double

section Kept
variable {σ α : Type} [Scalar α] [Solver σ α]

structure Acceptable (params : MpcParams α) (answer : Solve α) (solution : Solution α) : Prop where
  solved : answer.outcome = .ok solution
  inTime : ¬ params.solverBudget < answer.took
  sound : solution.course.Sound

theorem judge_of_acceptable {params : MpcParams α} {answer : Solve α} {solution : Solution α}
    (acceptable : Acceptable params answer solution) :
    ∃ next ahead, judge params answer = .ok (solution,next,ahead) ∧ courseFault solution.course true = none := by
  obtain ⟨solved,inTime,long,numbers,forward,clear⟩ := acceptable
  obtain ⟨next,first⟩ := Trajectory.instant?_of_reaches (i := 1) fun xs member => by have := long xs member; omega
  obtain ⟨ahead,far⟩ := Trajectory.instant?_of_reaches (i := lookAhead) fun xs member => long xs member
  refine ⟨next,ahead,judge_exact.mpr ⟨solved,inTime,first,far⟩,courseFault_exact.mpr ⟨numbers,fun _ => ⟨forward,?_⟩⟩⟩
  intro pair member
  obtain ⟨i,there⟩ := List.mem_iff_getElem?.mp member
  obtain ⟨lead,ego⟩ := List.getElem?_zip_eq_some.mp there
  exact clear i _ _ lead ego

theorem acceptable_of_judged {params : MpcParams α} {answer : Solve α} {solution : Solution α} {next ahead : Instant α}
    (judged : judge params answer = .ok (solution,next,ahead)) (passed : courseFault solution.course true = none) :
    Acceptable params answer solution :=
  ⟨(judge_exact.mp judged).1,(judge_exact.mp judged).2.1,sound_of_kept judged passed⟩

theorem tracks_exact (mpc : Mpc σ α) (input : MpcInput α) : (mpc.update input).1.hasLead = true ↔
    ∃ lead solution, leadOf input = some lead ∧ Acceptable mpc.params (mpc.answered input).1 solution ∧
      (mpc.update input).1.course = solution.course := by
  have judgement : mpc.judged input = judge mpc.params (mpc.answered input).1 := by
    rw [judged,prepared_frame,follow_frame]
  rw [tracking_exact]
  constructor
  · rintro ⟨reset,there⟩
    obtain ⟨lead,follows⟩ := Option.isSome_iff_exists.mp there
    obtain ⟨solution,next,ahead,found,passed⟩ := (reset_none_exact mpc input).mp reset
    have course := (update_kept mpc input reset found).1
    rw [there] at passed
    rw [judgement] at found
    exact ⟨lead,solution,follows,acceptable_of_judged found passed,course⟩
  · rintro ⟨lead,solution,follows,acceptable,_⟩
    have there : (leadOf input).isSome = true := by
      rw [follows]
      rfl
    obtain ⟨next,ahead,found,passed⟩ := judge_of_acceptable acceptable
    refine ⟨(reset_none_exact mpc input).mpr ⟨solution,next,ahead,judgement.trans found,?_⟩,there⟩
    rw [there]
    exact passed

theorem reset_of_missing (mpc : Mpc σ α) (input : MpcInput α) {solution : Solution α} {x : α}
    (solved : (mpc.answered input).1.outcome = .ok solution)
    (member : x ∈ solution.course.egoSpeed ++ solution.course.egoAccel) (missing : isNaN x = true) :
    (mpc.update input).2.reset.isSome = true := by
  cases reset : (mpc.update input).2.reset with
  | some cause => rfl
  | none =>
    obtain ⟨found,next,ahead,judged,passed⟩ := (reset_none_exact mpc input).mp reset
    cases Except.ok.inj (solved.symm.trans (judge_exact.mp judged).1)
    rw [(courseFault_exact.mp passed).1 x member] at missing
    cases missing

end Kept

section Infinite
variable {course : Trajectory Float}

-- Numbers, the infinities among them. A speed is never the lower one: that is backwards.
theorem sound_exact : course.Sound ↔ (∀ xs ∈ course.sequences, 11 ≤ xs.length) ∧
    (∀ speed ∈ course.egoSpeed, speed.isFinite = true ∧ ¬ speed < -0.01 ∨ Endless .positive speed) ∧
    (∀ accel ∈ course.egoAccel, accel.isFinite = true ∨ ∃ s, Endless s accel) ∧
    ∀ (i : Nat) (lead ego : Float), course.leadPosition[i]? = some lead → course.egoPosition[i]? = some ego →
      ¬ lead - ego < -50.0 := by
  constructor
  · rintro ⟨long,numbers,forward,clear⟩
    refine ⟨long,?_,?_,clear⟩
    · intro speed member
      rcases number_cases (numbers speed (List.mem_append_left _ member)) with finite | ⟨s,endless⟩
      · exact .inl ⟨finite,forward speed member⟩
      · cases s with
        | positive => exact .inr endless
        | negative =>
          have backwards : speed < -0.01 := by
            refine Ordered.lt_exact.mpr ⟨bottom_le endless (by decide),?_⟩
            intro back
            exact absurd (not_finite (bottom_of_le endless back)) (by decide)
          exact absurd backwards (forward speed member)
    · intro accel member
      exact number_cases (numbers accel (List.mem_append_right _ member))
  · rintro ⟨long,speeds,accels,clear⟩
    refine ⟨long,?_,?_,clear⟩
    · intro x member
      rcases List.mem_append.mp member with speed | accel
      · rcases speeds x speed with ⟨finite,_⟩ | endless
        · exact number_of_finite finite
        · exact endless.number
      · rcases accels x accel with finite | ⟨s,endless⟩
        · exact number_of_finite finite
        · exact endless.number
    · intro speed member
      rcases speeds speed member with ⟨_,forward⟩ | endless
      · exact forward
      · exact Ordered.not_lt_of_le (le_top (by decide) endless)

-- Whatever the instance, the solver and the input: what is tracked behind, and what never is.
theorem update_tracks {σ : Type} [Solver σ Float] (mpc : Mpc σ Float) (input : MpcInput Float) :
    ((mpc.update input).1.hasLead = true ↔
      ∃ lead solution, leadOf input = some lead ∧ (mpc.answered input).1.outcome = .ok solution ∧
        ¬ mpc.params.solverBudget < (mpc.answered input).1.took ∧ (mpc.update input).1.course = solution.course ∧
        (∀ xs ∈ solution.course.sequences, 11 ≤ xs.length) ∧
        (∀ speed ∈ solution.course.egoSpeed, speed.isFinite = true ∧ ¬ speed < -0.01 ∨ Endless .positive speed) ∧
        (∀ accel ∈ solution.course.egoAccel, accel.isFinite = true ∨ ∃ s, Endless s accel) ∧
        ∀ (i : Nat) (lead ego : Float), solution.course.leadPosition[i]? = some lead →
          solution.course.egoPosition[i]? = some ego → ¬ lead - ego < -50.0) ∧
      ∀ solution, (mpc.answered input).1.outcome = .ok solution →
        (∃ x ∈ solution.course.egoSpeed ++ solution.course.egoAccel, x.isNaN = true) →
        (mpc.update input).2.reset.isSome = true := by
  constructor
  · rw [tracks_exact]
    constructor
    · rintro ⟨lead,solution,follows,⟨solved,inTime,sound⟩,course⟩
      exact ⟨lead,solution,follows,solved,inTime,course,sound_exact.mp sound⟩
    · rintro ⟨lead,solution,follows,solved,inTime,course,sound⟩
      exact ⟨lead,solution,follows,⟨solved,inTime,sound_exact.mpr sound⟩,course⟩
  · rintro solution solved ⟨x,member,missing⟩
    exact reset_of_missing mpc input solved member missing

end Infinite

def endlessPull : Solution Float :=
  ⟨{ Trajectory.ramp 20.0 0.0 50.0 with
    egoAccel := (Trajectory.ramp 20.0 0.0 50.0).egoAccel.set 3 (1.0 / 0.0) },3⟩

def pulled : Mpc (Scripted Float) Float := .start 1 ⟨[.ok endlessPull],0.001⟩ .standard

theorem endless_pull_tracked :
    (pulled.update leadAhead).1.hasLead = true ∧ (pulled.update leadAhead).2.reset.isNone = true ∧
      (pulled.update leadAhead).1.course.egoAccel.any (fun accel => !accel.isFinite) = true :=
  ⟨by decide +kernel,by decide +kernel,by decide +kernel⟩

end Headway.Mpc
