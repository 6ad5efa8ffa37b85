import Headway.Program
import Headway.Proofs.Double.Counting
import Headway.Proofs.Double.Sign
import Headway.Proofs.Planner.SetUp
import Headway.Proofs.Replay.Run
import Mathlib.Algebra.Order.Floor.Semifield
import Mathlib.Data.Rat.Floor

-- How long the replay of a scenario lasts. Counting on, the clock reaches every time of a script that is finite, and
-- within the cycles that the program allows; a word can count so far for some 29 thousand million years.
namespace Headway
open Double Scalar

namespace Decimal

theorem Ratio.binary_exact (m : ℕ) (e : ℤ) : ((binary m e).num / (binary m e).den : ℚ) = m * 2 ^ e := by
  unfold binary
  simp only [Nat.pow_eq,Nat.cast_mul,Nat.cast_pow,Nat.cast_ofNat]
  rw [mul_div_assoc,← zpow_natCast,← zpow_natCast,← zpow_sub₀ two_ne_zero]
  congr 2
  omega

end Decimal

-- The times of a script are written without a sign, so its duration has none.
theorem Statement.time?_unsigned {statement : Statement} {time : Float} (read : statement.time? = some time) :
    Unsigned time.toModel.unpack := by
  unfold time? at read
  split at read
  · cases read
    exact Decimal.nearestDouble_unsigned _ _
  · cases read

theorem Script.Schedules.unsigned {last : Option Float} {statements : List Statement} {pending : List (Scheduled Float)}
    (schedules : Schedules last statements pending) : ∀ entry ∈ pending, Unsigned entry.time.toModel.unpack := by
  induction schedules with
  | nil => simp
  | cons reads _ _ ih => exact List.forall_mem_cons.mpr ⟨Statement.time?_unsigned reads.time,ih⟩

theorem Script.duration_unsigned {text : String} {script : Script Float} (accepted : parse text = .ok script) :
    Unsigned script.duration.toModel.unpack := by
  obtain ⟨schedules,filled⟩ := parse_exact.mp accepted
  obtain ⟨last,member,duration,_⟩ := (parse_orderly accepted).last filled
  rw [duration]
  exact schedules.unsigned last member

namespace Replay

theorem stepTime_exact : (World.stepTime : Float).isFinite = true ∧ 0.0 < (World.stepTime : Float) ∧
    1 / 20 ≤ value World.stepTime := by
  have kind : (World.stepTime : Float).toModel.unpack = .finite .positive 7205759403792794 (-57) (by decide) := rfl
  refine ⟨by decide +kernel,by decide +kernel,?_⟩
  unfold value
  rw [kind]
  change (1 / 20 : ℚ) ≤ (7205759403792794 : ℕ) * 2 ^ (-57 : ℤ)
  norm_num

theorem clock_number (n : ℕ) : isNaN (clock n : Float) = false := by
  obtain ⟨finite,pos,_⟩ := stepTime_exact
  have number : (Float.ofNat n).isNaN = false := ofScientific_number n false 0
  exact (Ordered.numbers_of_le (mul_mono finite pos (Ordered.le_refl number))).1

theorem clock_reaches {time : Float} {n : ℕ} (finite : time.isFinite = true) (some : 0 < n)
    (far : 40 * value time ≤ n) : time ≤ clock n := by
  obtain ⟨finite',pos,share⟩ := stepTime_exact
  apply reached_by_shares finite finite' pos some
  calc 2 * value time ≤ n * (1 / 20) := by linarith
    _ ≤ n * value World.stepTime := by gcongr

theorem cyclesFor_exact {time : Float} (finite : time.isFinite = true) (unsigned : Unsigned time.toModel.unpack) :
    ∃ n, cyclesFor time = n + 2 ∧ 0 < n ∧ 40 * value time ≤ n := by
  obtain ⟨m,e,narrow,parts,exactly⟩ := parts_exact finite unsigned
  have seconds := Decimal.Ratio.binary_exact m e
  unfold cyclesFor
  rw [parts]
  dsimp only
  generalize Decimal.Ratio.binary m e = ratio at seconds ⊢
  refine ⟨_,rfl,Nat.mul_pos two_pos (Nat.succ_pos _),?_⟩
  have steps : 20 * value time = ((World.stepsPerSecond * ratio.num : ℕ) : ℚ) / ratio.den := by
    rw [exactly,← seconds,Nat.cast_mul,mul_div_assoc]
    rfl
  have most := Nat.lt_floor_add_one (((World.stepsPerSecond * ratio.num : ℕ) : ℚ) / ratio.den)
  rw [Nat.floor_div_eq_div,← steps] at most
  push_cast
  linarith

-- The first cycle that no command of a script is due after. The cycles allowed go beyond it.
theorem last_allowed {time : Float} (finite : time.isFinite = true) (unsigned : Unsigned time.toModel.unpack) :
    ∃ N, IsLeast {n | time ≤ clock n} N ∧ N + 2 ≤ cyclesFor time := by
  obtain ⟨n,allowed,some,far⟩ := cyclesFor_exact finite unsigned
  have reached : ∃ n, time ≤ clock n := ⟨n,clock_reaches finite some far⟩
  refine ⟨Nat.find reached,Nat.isLeast_find reached,?_⟩
  rw [allowed]
  exact Nat.add_le_add_right (Nat.find_min' reached (clock_reaches finite some far)) 2

-- At the end of a word the clock has long been too coarse for one step more to move it.
theorem clock_full : (clock Word.max : Float) = clock (Word.max - 1) := by decide +kernel

theorem last_room {time : Float} {N : ℕ} (last : IsLeast {n | time ≤ clock n} N) (word : N ≤ Word.max) : N < Word.max := by
  rcases Nat.lt_or_eq_of_le word with room | rfl
  · exact room
  · have late : time ≤ clock (Word.max - 1) := clock_full ▸ last.1
    have earlier : Word.max ≤ Word.max - 1 := last.2 late
    exact absurd earlier (by decide)

section Program
variable {text : String} {script : Script Float}

theorem script_ends {σ : Type} [Solver σ Float] (accepted : Script.parse text = .ok script)
    (finite : script.duration.isFinite = true) (start : Simulation σ Float) (begun : start.world.cycles = 0)
    (begun' : start.world.time = clock 0) :
    ∃ N, IsLeast {n | script.duration ≤ clock n} N ∧ N + 2 ≤ cyclesFor script.duration ∧
      (N ≤ Word.max → ∃ final steps, Replayed script start N final steps ∧
        ∀ fuel, N + 2 ≤ fuel → play [] fuel script start = some (final,steps)) := by
  obtain ⟨N,last,enough⟩ := last_allowed finite (Script.duration_unsigned accepted)
  refine ⟨N,last,enough,fun word => ?_⟩
  exact replayed (Script.parse_orderly accepted) clock_number begun begun' (Script.parse_exact.mp accepted).2
    (last_room last word) last

-- A script is told to have no end only if the clock cannot count up to it.
theorem replay_succeeds_exact (accepted : Script.parse text = .ok script) (finite : script.duration.isFinite = true)
    (told : List LogRecord) (planner : Program.Car) (archives : FileTree (Sheet Float)) :
    (Program.replay told script planner archives).error = none ↔ ∃ n ≤ Word.max, script.duration ≤ clock n := by
  obtain ⟨N,last,enough,played⟩ := script_ends accepted finite ⟨.start 0.0,planner,archives⟩ rfl rfl
  unfold Program.replay
  constructor
  · intro success
    by_contra beyond
    push Not at beyond
    have clocked : (World.start 0.0 : World Float).time = clock 0 := rfl
    rw [endless_beyond (Script.parse_orderly accepted) clock_number (Script.parse_exact.mp accepted).2 beyond clocked] at success
    cases success
  · rintro ⟨n,word,late⟩
    obtain ⟨final,steps,_,played⟩ := played ((last.2 late).trans word)
    rw [played _ enough]

end Program
end Replay
end Headway
