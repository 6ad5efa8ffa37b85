import Mathlib
import Headway.Proofs.CollisionWarning.Counters
import Headway.Proofs.Double.Monotone
import Headway.Proofs.Exact

-- When the warning fires. It takes a threat that has lasted for ten evaluations and blinkers that have been
-- off for as many as their slower counter needs, a course that brakes hard, and five seconds of quiet.
namespace Headway.CollisionWarning
open Scalar WarningCounters

section Counting
variable {α : Type} [Scalar α]

-- How many evaluations the counters take to be reached, which is a question of arithmetic.
class Counting (α : Type) [Scalar α] (patience : outParam Nat) : Prop where
  ten_exact : ∀ n, (10.0 : α) ≤ tally 1.0 n ↔ 10 ≤ n
  patience_exact : ∀ n, (10.0 : α) ≤ tally (10.0 / (20.0 * 3.0)) n ↔ patience ≤ n
  seen_of_patience : ∀ n, patience ≤ n → (10.0 : α) ≤ tally 0.33 n

structure Threatening (e : Evaluation α) : Prop where
  moving : 5.0 < e.input.egoSpeed
  near : collision e < 2.5
  closing : e.lead.speed < e.input.egoSpeed
  lateralOffset : Scalar.abs e.lead.lateralOffset < 1.0
  lateralSpeed : Scalar.abs e.lead.lateralSpeed < 0.4
  wasMoving : 2.5 < e.fastest

structure Sustained (patience : Nat) (seen : List (Evaluation α)) : Prop where
  threatening : 10 ≤ seen.length ∧ ∀ e ∈ seen.take 10, Threatening e
  straight : patience ≤ seen.length ∧ ∀ e ∈ seen.take patience, e.input.signalling = false

theorem reached_exact {patience : Nat} [Counting α patience] {seen : List (Evaluation α)} :
    (tallied seen).reached = true ↔ Sustained patience seen := by
  simp only [reached,tallied,List.all_cons,List.all_nil,Bool.and_true,Bool.and_eq_true,decide_eq_true_eq,
    Counting.ten_exact,Counting.patience_exact,streak_exact,Bool.not_eq_true']
  constructor
  · rintro ⟨⟨enough,moving⟩,⟨_,near⟩,⟨_,wasMoving⟩,⟨_,closing⟩,_,⟨_,offset⟩,⟨_,speed⟩,straight⟩
    exact ⟨⟨enough,fun e member => ⟨moving e member,near e member,closing e member,offset e member,speed e member,
      wasMoving e member⟩⟩,straight⟩
  · rintro ⟨⟨enough,threat⟩,straight⟩
    exact ⟨⟨enough,fun e member => (threat e member).moving⟩,⟨enough,fun e member => (threat e member).near⟩,
      ⟨enough,fun e member => (threat e member).wasMoving⟩,⟨enough,fun e member => (threat e member).closing⟩,
      Counting.seen_of_patience _ straight.1,⟨enough,fun e member => (threat e member).lateralOffset⟩,
      ⟨enough,fun e member => (threat e member).lateralSpeed⟩,straight⟩

theorem quietOver_exact (past : List (Call α)) (time : α) :
    (after past).quietOver time = true ↔ ∀ last, (warnings past).head? = some last → last + 5.0 < time := by
  unfold quietOver
  rw [(remembers past).lastTime]
  cases (warnings past).head? <;> simp

theorem fires_exact {patience : Nat} [Counting α patience] (past : List (Call α)) (check : Check α) :
    fires past check = true ↔
      0.99 < check.lead.threat ∧ Sustained patience (evaluations (sinceRearm (.check check :: past))) ∧
        (threat? check.input check.lead).isSome = true ∧
        ∀ last, (warnings past).head? = some last → last + 5.0 < check.input.time := by
  unfold fires
  rw [update_fires,quietOver_exact,(remembers past).fastest]
  apply and_congr_right
  intro likely
  have counted := tallied_cons check _ (after past) (remembers past).counters
  have seen : evaluations (sinceRearm (.check check :: past)) =
      ⟨check,fastest (check :: sinceRearm past)⟩ :: evaluations (sinceRearm past) := if_pos likely
  rw [seen,← reached_exact,← counted]
  rfl

-- However often the warning is armed again in between, no two warnings are within five seconds.
theorem warnings_apart (past : List (Call α)) :
    (warnings past).IsChain fun later earlier => earlier + 5.0 < later := by
  induction past with
  | nil => exact .nil
  | cons call past ih =>
    cases call with
    | rearm time => exact ih
    | check check =>
      change (if fires past check then check.input.time :: warnings past else warnings past).IsChain _
      split
      · rename_i fired
        obtain ⟨_,_,_,quiet⟩ := (update_fires (after past) check.input check.lead).mp fired
        exact List.isChain_cons.mpr ⟨(quietOver_exact past check.input.time).mp quiet,ih⟩
      · exact ih

end Counting

section Running
variable {increment : Float} {m n : Nat}

theorem tally_positive (positive : 0.0 ≤ increment) (n : Nat) : 0.0 ≤ tally increment n := by
  induction n with
  | zero =>
    change (0.0 : Float) ≤ 0.0
    decide
  | succ n ih => exact Ordered.le_trans ih (Double.le_add ih positive)

theorem tally_mono (positive : 0.0 ≤ increment) (more : m ≤ n) : tally increment m ≤ tally increment n := by
  induction more with
  | refl => exact Ordered.le_refl (Ordered.numbers_of_le (tally_positive positive m)).2
  | step _ ih => exact Ordered.le_trans ih (Double.le_add (tally_positive positive _) positive)

theorem tally_reaches_running {patience : Nat} (positive : 0.0 ≤ increment) (short : tally increment patience < 10.0)
    (reached : 10.0 ≤ tally increment (patience + 1)) (n : Nat) :
    10.0 ≤ tally increment n ↔ patience + 1 ≤ n := by
  constructor
  · intro bound
    apply Nat.lt_of_not_le
    intro fewer
    exact Ordered.not_lt_of_le (Ordered.le_trans bound (tally_mono positive fewer)) short
  · exact fun more => Ordered.le_trans reached (tally_mono positive more)

-- Sixty sixths fall short of ten as doubles add up, so the running warning waits for one evaluation more.
instance : Counting Float 61 where
  ten_exact := tally_reaches_running (by decide) (by decide +kernel) (by decide +kernel)
  patience_exact := tally_reaches_running (by decide) (by decide +kernel) (by decide +kernel)
  seen_of_patience n patient :=
    Ordered.le_trans (show (10.0 : Float) ≤ tally 0.33 61 by decide +kernel) (tally_mono (by decide) patient)

def closingIn : Check Float :=
  ⟨⟨0.0,20.0,0.0,false,[-4.0]⟩,⟨true,15.0,10.0,10.0,0.0,0.0,0.0,1.5,1.0⟩⟩

example : fires (List.replicate 59 (.check closingIn)) closingIn = false ∧
    fires (List.replicate 60 (.check closingIn)) closingIn = true := by decide +kernel

end Running

section Exact

theorem tally_exact (increment : ℝ) (n : Nat) : tally increment n = n * increment := by
  induction n with
  | zero =>
    change (0.0 : ℝ) = (0 : Nat) * increment
    norm_num
  | succ n ih =>
    change tally increment n + increment = ((n + 1 : Nat) : ℝ) * increment
    rw [ih]
    push_cast
    ring

theorem tally_reaches {increment : ℝ} {patience : Nat} (positive : 0 < increment)
    (whole : patience * increment = 10) (n : Nat) : 10.0 ≤ tally increment n ↔ patience ≤ n := by
  have ten : (10.0 : ℝ) = patience * increment := by
    rw [whole]
    norm_num
  rw [tally_exact,ten,mul_le_mul_iff_left₀ positive,Nat.cast_le]

-- A sixth is added for each evaluation with the blinkers off, so three seconds of them are sixty.
instance : Counting ℝ 60 where
  ten_exact := tally_reaches (by norm_num) (by norm_num)
  patience_exact := tally_reaches (by norm_num) (by norm_num)
  seen_of_patience n patient := by
    have many : (60 : ℝ) ≤ n := by exact_mod_cast patient
    rw [tally_exact]
    norm_num
    linarith

theorem least?_min? (xs : List ℝ) : least? xs = xs.min? := by
  have folded : ∀ (xs : List ℝ) (b : ℝ), xs.foldl least?.pick (some b) = some (xs.foldl min b) := by
    intro xs
    induction xs with
    | nil => exact fun b => rfl
    | cons x xs ih =>
      intro b
      have picked : least?.pick (some b) x = some (min b x) := by
        change (if x < b then some x else some b) = some (min b x)
        rw [min_comm,min_def_lt]
        split <;> rfl
      rw [List.foldl_cons,picked,ih,List.foldl_cons]
  cases xs with
  | nil => rfl
  | cons x xs => exact folded xs x

theorem threat?_exact (input : WarningInput ℝ) (lead : LeadTrack ℝ) :
    (threat? input lead).isSome = true ↔
      (∃ hardest, input.predicted.min? = some hardest ∧ hardest < -3.0) ∨
        ∃ near, (input.predicted.take 15).min? = some near ∧
          near - min 0 input.egoAccel < brakingThreshold.read lead.speed := by
  have present : lesser input.egoAccel 0.0 = min 0 input.egoAccel := by
    rw [lesser_min,min_comm]
    norm_num
  unfold threat?
  rw [least?_min?,least?_min?,present]
  cases course : input.predicted with
  | nil => simp
  | cons accel rest =>
    rw [List.min?_cons']
    simp [Option.isSome_filter]

structure Fires (past : List (Call ℝ)) (check : Check ℝ) : Prop where
  likely : 0.99 < check.lead.threat
  sustained : Sustained 60 (evaluations (sinceRearm (.check check :: past)))
  braking : (∃ hardest, check.input.predicted.min? = some hardest ∧ hardest < -3.0) ∨
    ∃ near, (check.input.predicted.take 15).min? = some near ∧
      near - min 0 check.input.egoAccel < brakingThreshold.read check.lead.speed
  quiet : ∀ last, (warnings past).head? = some last → last + 5.0 < check.input.time

theorem warning_fires_exact (past : List (Call ℝ)) :
    (∀ check, fires past check = true ↔ Fires past check) ∧
      (warnings past).IsChain fun later earlier => earlier + 5.0 < later := by
  refine ⟨?_,warnings_apart past⟩
  intro check
  rw [fires_exact,threat?_exact]
  constructor
  · rintro ⟨likely,sustained,braking,quiet⟩
    exact ⟨likely,sustained,braking,quiet⟩
  · rintro ⟨likely,sustained,braking,quiet⟩
    exact ⟨likely,sustained,braking,quiet⟩

end Exact
end Headway.CollisionWarning
