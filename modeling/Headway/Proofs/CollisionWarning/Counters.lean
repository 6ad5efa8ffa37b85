import Headway.CollisionWarning
import Headway.Proofs.Order

-- What the counters of the warning know of the checks before. Each is the length of a streak: of the latest
-- evaluations without a break, since the lead that is followed now was acquired.
namespace Headway.CollisionWarning
open Scalar WarningCounters
variable {α : Type} [Scalar α]

structure Check (α : Type) where
  input : WarningInput α
  lead : LeadTrack α

inductive Call (α : Type) where
  | rearm (time : α)
  | check (check : Check α)

-- Calls stand newest first, and so does everything that is read off them.
def after : List (Call α) → CollisionWarning α
  | [] => start
  | .rearm time :: past => (after past).rearm time
  | .check check :: past => ((after past).update check.input check.lead).1

def fires (past : List (Call α)) (check : Check α) : Bool := ((after past).update check.input check.lead).2

omit [Scalar α] in
def sinceRearm : List (Call α) → List (Check α)
  | .check check :: past => check :: sinceRearm past
  | _ => []

def fastest : List (Check α) → α
  | [] => 0.0
  | check :: earlier => greater (fastest earlier) check.lead.speed

-- A check of a lead that is likely to matter, with the highest speed of the lead until then.
structure Evaluation (α : Type) extends Check α where
  fastest : α

def evaluations : List (Check α) → List (Evaluation α)
  | [] => []
  | check :: earlier =>
      if 0.99 < check.lead.threat then ⟨check,fastest (check :: earlier)⟩ :: evaluations earlier
      else evaluations earlier

def warnings : List (Call α) → List α
  | [] => []
  | .rearm _ :: past => warnings past
  | .check check :: past =>
      if fires past check then check.input.time :: warnings past else warnings past

def tally (increment : α) : Nat → α
  | 0 => 0.0
  | n + 1 => tally increment n + increment

def streak {β : Type} (holds : β → Bool) (seen : List β) : Nat := (seen.takeWhile holds).length

omit [Scalar α] in
theorem streak_exact {β : Type} {holds : β → Bool} {seen : List β} {n : Nat} :
    n ≤ streak holds seen ↔ n ≤ seen.length ∧ ∀ e ∈ seen.take n, holds e = true := by
  induction seen generalizing n with
  | nil => simp [streak]
  | cons e seen ih =>
    cases n with
    | zero => simp
    | succ n =>
      have first : streak holds (e :: seen) = if holds e then streak holds seen + 1 else 0 := by
        unfold streak
        rw [List.takeWhile_cons]
        split <;> rfl
      rw [first]
      by_cases held : holds e = true
      · rw [if_pos held,Nat.succ_le_succ_iff,ih]
        simp [held]
      · rw [if_neg held]
        refine iff_of_false (Nat.not_succ_le_zero n) ?_
        rintro ⟨_,all⟩
        exact held (all e List.mem_cons_self)

theorem count_streak {β : Type} (holds : β → Bool) (e : β) (seen : List β) (increment : α) :
    count (tally increment (streak holds seen)) (holds e) increment = tally increment (streak holds (e :: seen)) := by
  unfold count streak
  rw [List.takeWhile_cons]
  cases holds e <;> rfl

def collision (e : Evaluation α) : α :=
  timeToCollision e.input.egoSpeed e.input.egoAccel e.lead.distance e.lead.speed e.lead.filteredAccel

def tallied (seen : List (Evaluation α)) : WarningCounters α where
  egoSpeed := tally 1.0 (streak (fun e => 5.0 < e.input.egoSpeed) seen)
  timeToCollision := tally 1.0 (streak (fun e => collision e < 2.5) seen)
  leadSpeedMax := tally 1.0 (streak (fun e => 2.5 < e.fastest) seen)
  closing := tally 1.0 (streak (fun e => e.lead.speed < e.input.egoSpeed) seen)
  leadSeen := tally 0.33 seen.length
  lateralOffset := tally 1.0 (streak (fun e => Scalar.abs e.lead.lateralOffset < 1.0) seen)
  lateralSpeed := tally 1.0 (streak (fun e => Scalar.abs e.lead.lateralSpeed < 0.4) seen)
  blinkers := tally (10.0 / (20.0 * 3.0)) (streak (fun e => !e.input.signalling) seen)

theorem tallied_cons (check : Check α) (earlier : List (Check α)) (warning : CollisionWarning α)
    (counters : warning.counters = tallied (evaluations earlier)) :
    warning.counted check.input check.lead (fastest (check :: earlier)) =
      tallied (⟨check,fastest (check :: earlier)⟩ :: evaluations earlier) := by
  unfold counted
  rw [counters]
  simp only [tallied,← count_streak]
  rfl

section Update
variable (warning : CollisionWarning α) (input : WarningInput α) (lead : LeadTrack α)

theorem update_frame : (warning.update input lead).1 =
    { warning with
      counters := if 0.99 < lead.threat then
          warning.counted input lead (greater warning.leadSpeedMax lead.speed)
        else warning.counters
      lastTime := if (warning.update input lead).2 then some input.time else warning.lastTime
      lastAccel := (warning.update input lead).1.lastAccel
      leadSpeedMax := greater warning.leadSpeedMax lead.speed } := by
  unfold update
  dsimp only
  split
  · split
    · split <;> rfl
    · rfl
  · rfl

theorem update_fires : (warning.update input lead).2 = true ↔
    0.99 < lead.threat ∧ (warning.counted input lead (greater warning.leadSpeedMax lead.speed)).reached = true ∧
      (threat? input lead).isSome = true ∧ warning.quietOver input.time = true := by
  unfold update
  dsimp only
  by_cases likely : 0.99 < lead.threat
  · rw [if_pos likely]
    cases threat? input lead with
    | none => simp
    | some hardest =>
      dsimp only
      rw [apply_ite Prod.snd]
      simp [likely]
  · rw [if_neg likely]
    simp [likely]

end Update

-- What a history leaves behind: the counters and the highest speed are those of this lead, the last warning
-- is the last of all.
structure Remembers (past : List (Call α)) : Prop where
  counters : (after past).counters = tallied (evaluations (sinceRearm past))
  fastest : (after past).leadSpeedMax = fastest (sinceRearm past)
  lastTime : (after past).lastTime = (warnings past).head?

theorem Remembers.check {past : List (Call α)} (known : Remembers past) (check : Check α) :
    Remembers (.check check :: past) := by
  have frame := update_frame (after past) check.input check.lead
  have highest : greater (after past).leadSpeedMax check.lead.speed = CollisionWarning.fastest (check :: sinceRearm past) := by
    rw [known.fastest]
    rfl
  refine ⟨?_,?_,?_⟩
  · change ((after past).update check.input check.lead).1.counters =
      tallied (if 0.99 < check.lead.threat then _ else _)
    rw [frame]
    split
    · rw [highest]
      exact tallied_cons check _ (after past) known.counters
    · exact known.counters
  · change ((after past).update check.input check.lead).1.leadSpeedMax = _
    rw [frame]
    exact highest
  · refine (congrArg CollisionWarning.lastTime frame).trans ?_
    change (if fires past check then some check.input.time else (after past).lastTime) =
      (if fires past check then check.input.time :: warnings past else warnings past).head?
    rw [known.lastTime]
    split <;> rfl

theorem remembers (past : List (Call α)) : Remembers past := by
  induction past with
  | nil => exact ⟨rfl,rfl,rfl⟩
  | cons call past known =>
    cases call with
    | rearm time => exact ⟨rfl,rfl,known.lastTime⟩
    | check check => exact known.check check

end Headway.CollisionWarning
