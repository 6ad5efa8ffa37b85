import Headway.Mpc

-- What an answer must be like before an instance keeps it: long enough in every sequence, made of
-- numbers, and, behind a lead, neither backwards nor through it.
namespace Headway
open Scalar
variable {α : Type}

namespace Trajectory

def sequences (course : Trajectory α) : List (List α) :=
  [course.egoPosition,course.egoSpeed,course.egoAccel,course.leadPosition,course.leadSpeed]

theorem instant?_exact {course : Trajectory α} {i : Nat} {point : Instant α} :
    course.instant? i = some point ↔
      course.egoPosition[i]? = some point.egoPosition ∧ course.egoSpeed[i]? = some point.egoSpeed ∧
      course.egoAccel[i]? = some point.egoAccel ∧ course.leadPosition[i]? = some point.leadPosition ∧
      course.leadSpeed[i]? = some point.leadSpeed := by
  rcases point with ⟨x,v,a,lx,lv⟩
  simp only [instant?,Option.bind_eq_bind,Option.bind_eq_some_iff,Option.pure_def,Option.some.injEq,
    Instant.mk.injEq]
  constructor
  · rintro ⟨_,one,_,two,_,three,_,four,_,five,rfl,rfl,rfl,rfl,rfl⟩
    exact ⟨one,two,three,four,five⟩
  · rintro ⟨one,two,three,four,five⟩
    exact ⟨_,one,_,two,_,three,_,four,_,five,rfl,rfl,rfl,rfl,rfl⟩

theorem instant?_reaches {course : Trajectory α} {i : Nat} {point : Instant α}
    (there : course.instant? i = some point) : ∀ xs ∈ course.sequences, i < xs.length := by
  obtain ⟨one,two,three,four,five⟩ := instant?_exact.mp there
  simp only [sequences,List.mem_cons,List.not_mem_nil,or_false]
  rintro xs (rfl | rfl | rfl | rfl | rfl)
  · exact (List.getElem?_eq_some_iff.mp one).1
  · exact (List.getElem?_eq_some_iff.mp two).1
  · exact (List.getElem?_eq_some_iff.mp three).1
  · exact (List.getElem?_eq_some_iff.mp four).1
  · exact (List.getElem?_eq_some_iff.mp five).1

theorem instant?_of_reaches {course : Trajectory α} {i : Nat} (long : ∀ xs ∈ course.sequences, i < xs.length) :
    ∃ point, course.instant? i = some point := by
  simp only [sequences,List.mem_cons,List.not_mem_nil,or_false,forall_eq_or_imp,forall_eq] at long
  obtain ⟨one,two,three,four,five⟩ := long
  exact ⟨⟨_,_,_,_,_⟩,instant?_exact.mpr ⟨List.getElem?_eq_getElem one,List.getElem?_eq_getElem two,
    List.getElem?_eq_getElem three,List.getElem?_eq_getElem four,List.getElem?_eq_getElem five⟩⟩

variable [Scalar α]

structure Sound (course : Trajectory α) : Prop where
  long : ∀ xs ∈ course.sequences, 11 ≤ xs.length
  numbers : ∀ x ∈ course.egoSpeed ++ course.egoAccel, isNaN x = false
  forward : ∀ speed ∈ course.egoSpeed, ¬ speed < -0.01
  clear : ∀ (i : Nat) (lead ego : α), course.leadPosition[i]? = some lead →
    course.egoPosition[i]? = some ego → ¬ lead - ego < -50.0

end Trajectory

namespace Mpc
variable [Scalar α]

theorem courseFault_exact {course : Trajectory α} {tracking : Bool} : courseFault course tracking = none ↔
    (∀ x ∈ course.egoSpeed ++ course.egoAccel, isNaN x = false) ∧
      (tracking = true → (∀ speed ∈ course.egoSpeed, ¬ speed < -0.01) ∧
        ∀ pair ∈ course.leadPosition.zip course.egoPosition, ¬ pair.1 - pair.2 < -50.0) := by
  have refused {fault : ResetCause α} {faulty : Bool} :
      (if faulty then some fault else none) = none ↔ faulty = false := by cases faulty <;> simp
  unfold courseFault
  dsimp only
  rw [refused,Bool.or_eq_false_iff,Bool.and_eq_false_iff,Bool.or_eq_false_iff,and_comm]
  simp only [List.any_eq_false,Bool.not_eq_true,decide_eq_true_eq]
  cases tracking <;> simp

theorem courseFault_tracking {course : Trajectory α} (passed : courseFault course true = none) :
    (∀ x ∈ course.egoSpeed ++ course.egoAccel, isNaN x = false) ∧
      (∀ speed ∈ course.egoSpeed, ¬ speed < -0.01) ∧
      ∀ pair ∈ course.leadPosition.zip course.egoPosition, ¬ pair.1 - pair.2 < -50.0 :=
  ⟨(courseFault_exact.mp passed).1,(courseFault_exact.mp passed).2 rfl⟩

theorem judge_exact {params : MpcParams α} {answer : Solve α} {solution : Solution α} {next ahead : Instant α} :
    judge params answer = .ok (solution,next,ahead) ↔
      answer.outcome = .ok solution ∧ ¬ params.solverBudget < answer.took ∧
      solution.course.instant? 1 = some next ∧ solution.course.instant? lookAhead = some ahead := by
  constructor
  · intro kept
    unfold judge at kept
    split at kept
    · cases kept
    · rename_i outcome
      split at kept
      · cases kept
      · rename_i inTime
        split at kept
        · rename_i first far
          cases kept
          exact ⟨outcome,inTime,first,far⟩
        · cases kept
  · rintro ⟨outcome,inTime,first,far⟩
    unfold judge
    rw [outcome]
    dsimp only
    rw [if_neg inTime,first,far]

theorem judge_ok {params : MpcParams α} {answer : Solve α} {solution : Solution α} {next ahead : Instant α}
    (kept : judge params answer = .ok (solution,next,ahead)) :
    solution.course.instant? 1 = some next ∧ solution.course.instant? lookAhead = some ahead :=
  (judge_exact.mp kept).2.2

theorem sound_of_kept {params : MpcParams α} {answer : Solve α} {solution : Solution α}
    {next ahead : Instant α} (kept : judge params answer = .ok (solution,next,ahead))
    (passed : courseFault solution.course true = none) : solution.course.Sound := by
  obtain ⟨_,far⟩ := judge_ok kept
  obtain ⟨numbers,forward,apart⟩ := courseFault_tracking passed
  refine ⟨fun xs member => Trajectory.instant?_reaches far xs member,numbers,forward,?_⟩
  intro i lead ego atLead atEgo
  exact apart (lead,ego) (List.mem_of_getElem? (List.getElem?_zip_eq_some.mpr ⟨atLead,atEgo⟩))

end Mpc
end Headway
