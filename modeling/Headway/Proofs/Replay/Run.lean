import Headway.Proofs.Script.Polling
import Headway.Replay
import Mathlib.Order.Bounds.Basic

-- The loop that plays a script, round by round. A round executes the commands that are due and runs one cycle, and the
-- clock of the world counts the rounds, as far as its word can.
namespace Headway
open Scalar
variable {σ α : Type} [Scalar α]

namespace Replay

def clock (n : Nat) : α := ofNat n * World.stepTime

def clocks (n : Nat) : List α := (List.range n).map clock

theorem clocks_number (numbers : ∀ n, isNaN (clock n : α) = false) (n : Nat) :
    ∀ time ∈ (clocks n : List α), isNaN time = false := by
  intro time member
  obtain ⟨k,_,rfl⟩ := List.mem_map.mp member
  exact numbers k

theorem clocks_succ (n : Nat) : (clocks (n + 1) : List α) = clocks n ++ [clock n] := by
  unfold clocks
  rw [List.range_succ,List.map_append]
  rfl

end Replay

namespace ReplayStep

def world : ReplayStep α → World α
  | .command world _ => world
  | .cycle happened => happened.before

def command? : ReplayStep α → Option (Command α)
  | .command _ order => some order
  | .cycle _ => none

-- The number of the cycle that a step belongs to, with its command, if it is not that cycle itself.
def mark (step : ReplayStep α) : Nat × Option (Command α) := (step.world.cycles,step.command?)

end ReplayStep

-- The commands that wait for the round n, and what that round does.
def Script.dueAt (script : Script α) (n : Nat) : List (Command α) :=
  script.those fun entry => entry.time ≤ Replay.clock n ∧ ∀ k < n, ¬ entry.time ≤ Replay.clock k

def Script.turn (script : Script α) (n : Nat) : List (Nat × Option (Command α)) :=
  (script.dueAt n).map (fun command => (n,some command)) ++ [(n,none)]

theorem Script.turns_commands (script : Script α) (n : Nat) :
    ((List.range n).flatMap script.turn).filterMap Prod.snd = (List.range n).flatMap script.dueAt := by
  rw [List.filterMap_flatMap]
  congr 1
  funext k
  simp [Script.turn,List.filterMap_map]

-- Only the step of a world moves its clock.
theorem World.exec_clock (world : World α) (command : Command α) :
    (world.exec command).cycles = world.cycles ∧ (world.exec command).time = world.time := by
  cases command <;> exact ⟨rfl,rfl⟩

theorem World.step_clock (world : World α) (plan : Plan α) :
    (world.step plan).time = Replay.clock (world.step plan).cycles := rfl

theorem World.step_cycles {world : World α} (room : world.cycles < Word.max) (plan : Plan α) :
    (world.step plan).cycles = world.cycles + 1 := Nat.mod_eq_of_lt (Nat.succ_lt_succ room)

namespace Replay

theorem drained_exact [Ordered α] {script : Script α} {times : List α} (orderly : script.Orderly)
    (numbers : ∀ time ∈ times, isNaN time = false) (filled : script.pending ≠ []) :
    (script.after times).pending = [] ↔ ∃ time ∈ times, script.duration ≤ time := by
  obtain ⟨last,member,duration,latest⟩ := orderly.last filled
  have passed (entry) (member : entry ∈ script.pending) := Script.passed_exact numbers (orderly.numbers entry member)
  rw [orderly.after,List.filter_eq_nil_iff,duration]
  constructor
  · intro drained
    exact (passed last member).mp (by simpa using drained last member)
  · rintro ⟨time,polled,bound⟩ entry member
    rw [(passed entry member).mpr ⟨time,polled,Ordered.le_trans (latest entry member) bound⟩]
    decide

section Waiting
variable [Ordered α] {script : Script α} (orderly : script.Orderly) (numbers : ∀ n, isNaN (clock n : α) = false)
include orderly numbers

-- The batch of a round is told by the times of the commands, and the end by the last of them.
theorem dueAt_polled (n : Nat) :
    ((script.after (clocks n)).poll (clock n)).1.batch = script.dueAt n := by
  rw [orderly.next]
  apply Script.those_congr
  intro entry member
  have timed := orderly.numbers entry member
  rw [Bool.and_eq_true,Bool.not_eq_true',← Bool.not_eq_true,Script.passed_exact (clocks_number numbers n) timed,
    Script.due_exact (numbers n) timed]
  simp [clocks]

theorem returned_clocks (n : Nat) :
    script.returned (clocks n) = (List.range n).flatMap script.dueAt := by
  induction n with
  | zero => rfl
  | succ n ih =>
    unfold Script.returned at ih ⊢
    rw [clocks_succ,script.answers_append,List.flatMap_append,ih,List.range_succ,List.flatMap_append,
      List.flatMap_singleton,List.flatMap_singleton,dueAt_polled orderly numbers]

end Waiting

def executed (sim : Simulation σ α) : List (Command α) → List (ReplayStep α)
  | [] => []
  | command :: rest => .command sim.world command :: executed (sim.exec command) rest

theorem execAll_exact (sim : Simulation σ α) (past : List (ReplayStep α)) (batch : List (Command α)) :
    execAll sim past batch = (batch.foldl Simulation.exec sim,(executed sim batch).reverse ++ past) := by
  induction batch generalizing sim past with
  | nil => rfl
  | cons command rest ih =>
    rw [execAll,ih,executed,List.reverse_cons,List.append_assoc]
    rfl

theorem executed_cycles (sim : Simulation σ α) (batch : List (Command α)) :
    (batch.foldl Simulation.exec sim).world.cycles = sim.world.cycles := by
  induction batch generalizing sim with
  | nil => rfl
  | cons command rest ih => exact (ih (sim.exec command)).trans (sim.world.exec_clock command).1

theorem executed_cycle (sim : Simulation σ α) (batch : List (Command α)) :
    (executed sim batch).filterMap ReplayStep.cycle? = [] := by
  induction batch generalizing sim with
  | nil => rfl
  | cons command rest ih => exact ih (sim.exec command)

theorem executed_marks (sim : Simulation σ α) (batch : List (Command α)) :
    (executed sim batch).map ReplayStep.mark = batch.map fun command => (sim.world.cycles,some command) := by
  induction batch generalizing sim with
  | nil => rfl
  | cons command rest ih =>
    rw [executed,List.map_cons,ih]
    exact congrArg (fun n => _ :: rest.map fun command => (n,some command)) (sim.world.exec_clock command).1

variable [Solver σ α]

-- What may be recorded of a simulation that goes from one state to another. A command changes the world and nothing else.
-- In a cycle the planner is given what the world then shows, and the plan that it makes moves the world.
inductive Traced : Simulation σ α → List (ReplayStep α) → Simulation σ α → Prop where
  | rest (sim : Simulation σ α) : Traced sim [] sim
  | command {world : World α} {planner : ArchivedPlanner σ α} {archives : FileTree (Sheet α)} {final : Simulation σ α}
      {steps : List (ReplayStep α)} (command : Command α)
      (later : Traced ⟨world.exec command,planner,archives⟩ steps final) :
      Traced ⟨world,planner,archives⟩ (.command world command :: steps) final
  | cycle {world : World α} {planner planner' : ArchivedPlanner σ α} {archives archives' : FileTree (Sheet α)}
      {plan : Plan α} {report : PlannerReport α} {final : Simulation σ α} {steps : List (ReplayStep α)}
      (planned : planner.cycle world.input archives = (planner',plan,report,archives'))
      (later : Traced ⟨world.step plan,planner',archives'⟩ steps final) :
      Traced ⟨world,planner,archives⟩ (.cycle ⟨world,plan,report,world.step plan⟩ :: steps) final

theorem Traced.append {first second third : Simulation σ α} {steps later : List (ReplayStep α)}
    (traced : Traced first steps second) (traced' : Traced second later third) :
    Traced first (steps ++ later) third := by
  induction traced with
  | rest sim => exact traced'
  | command command _ ih => exact .command command (ih traced')
  | cycle planned _ ih => exact .cycle planned (ih traced')

theorem Traced.clocked {sim final : Simulation σ α} {steps : List (ReplayStep α)} (traced : Traced sim steps final)
    (start : sim.world.time = clock sim.world.cycles) :
    (∀ step ∈ steps, step.world.time = clock step.world.cycles) ∧ final.world.time = clock final.world.cycles := by
  induction traced with
  | rest sim => exact ⟨by simp,start⟩
  | @command world planner archives final steps command _ ih =>
    obtain ⟨cycles,time⟩ := world.exec_clock command
    obtain ⟨between,last⟩ := ih ((time.trans start).trans (congrArg clock cycles.symm))
    exact ⟨List.forall_mem_cons.mpr ⟨start,between⟩,last⟩
  | @cycle world _ _ _ _ plan _ _ _ _ _ ih =>
    obtain ⟨between,last⟩ := ih (world.step_clock plan)
    exact ⟨List.forall_mem_cons.mpr ⟨start,between⟩,last⟩

def round (sim : Simulation σ α) (batch : List (Command α)) : Simulation σ α × List (ReplayStep α) :=
  let ready := batch.foldl Simulation.exec sim
  (ready.cycle.1,executed sim batch ++ [.cycle ready.cycle.2])

theorem executed_traced (sim : Simulation σ α) (batch : List (Command α)) :
    Traced sim (executed sim batch) (batch.foldl Simulation.exec sim) := by
  induction batch generalizing sim with
  | nil => exact .rest sim
  | cons command rest ih => exact .command command (ih (sim.exec command))

theorem round_traced (sim : Simulation σ α) (batch : List (Command α)) :
    Traced sim (round sim batch).2 (round sim batch).1 :=
  (executed_traced sim batch).append (.cycle rfl (.rest _))

theorem round_cycles {sim : Simulation σ α} (room : sim.world.cycles < Word.max) (batch : List (Command α)) :
    (round sim batch).1.world.cycles = sim.world.cycles + 1 := by
  have same := executed_cycles sim batch
  exact (World.step_cycles (same ▸ room) _).trans (congrArg (· + 1) same)

theorem round_cycle (sim : Simulation σ α) (batch : List (Command α)) :
    (round sim batch).2.filterMap ReplayStep.cycle? = [(batch.foldl Simulation.exec sim).cycle.2] := by
  unfold round
  rw [List.filterMap_append,executed_cycle]
  rfl

theorem round_marks (sim : Simulation σ α) (batch : List (Command α)) :
    (round sim batch).2.map ReplayStep.mark =
      batch.map (fun command => (sim.world.cycles,some command)) ++ [(sim.world.cycles,none)] := by
  unfold round
  rw [List.map_append,executed_marks]
  exact congrArg (fun n => batch.map _ ++ [(n,none)]) (executed_cycles sim batch)

theorem play_round {script : Script α} (remaining : script.pending ≠ []) (past : List (ReplayStep α)) (fuel : Nat)
    (sim : Simulation σ α) :
    play past (fuel + 1) script sim =
      play ((round sim (script.poll sim.world.time).1.batch).2.reverse ++ past) fuel (script.poll sim.world.time).2
        (round sim (script.poll sim.world.time).1.batch).1 := by
  rw [play]
  have polled := script.poll_cases sim.world.time
  generalize script.poll sim.world.time = answer at polled ⊢
  obtain ⟨due,left⟩ := answer
  cases polled with
  | finished drained => exact absurd drained remaining
  | nothing _ early => rfl
  | commands due =>
    simp only [execAll_exact,round,Due.batch,List.reverse_append,List.reverse_cons,List.reverse_nil]
    rfl

theorem play_ended {script : Script α} (drained : script.pending = []) (past : List (ReplayStep α)) (fuel : Nat)
    (sim : Simulation σ α) : play past (fuel + 1) script sim = some (sim,past.reverse) := by
  obtain ⟨pending⟩ := script
  cases drained
  rfl

-- The loop before its round n.
structure Reached (script : Script α) (start : Simulation σ α) (n : Nat) (sim : Simulation σ α)
    (steps : List (ReplayStep α)) : Prop where
  traced : Traced start steps sim
  cycles : sim.world.cycles = n
  marks : steps.map ReplayStep.mark = (List.range n).flatMap script.turn
  counted : (steps.filterMap ReplayStep.cycle?).length = n
  played : ∀ fuel, play [] (n + fuel) script start = play steps.reverse fuel (script.after (clocks n)) sim

-- A whole replay, of N + 1 cycles.
structure Replayed (script : Script α) (start : Simulation σ α) (N : Nat) (final : Simulation σ α)
    (steps : List (ReplayStep α)) : Prop where
  last : IsLeast {n | script.duration ≤ clock n} N
  traced : Traced start steps final
  marks : steps.map ReplayStep.mark = (List.range (N + 1)).flatMap script.turn
  cycles : (steps.filterMap ReplayStep.cycle?).length = N + 1
  commands : steps.filterMap ReplayStep.command? = script.commands
  clocked : ∀ step ∈ steps, step.world.time = clock step.world.cycles
  ended : final.world.cycles = N + 1 ∧ final.world.time = clock (N + 1)

section Loop
variable [Ordered α] {script : Script α} {start : Simulation σ α} (orderly : script.Orderly)
  (numbers : ∀ n, isNaN (clock n : α) = false)
include orderly numbers

-- The loop keeps going as long as no clock time is late enough, and a word has no others than those it can count to.
theorem endless_beyond (filled : script.pending ≠ []) (beyond : ∀ n ≤ Word.max, ¬ script.duration ≤ clock n)
    (clocked : start.world.time = clock start.world.cycles) (fuel : Nat) : play [] fuel script start = none := by
  suffices general : ∀ times past sim, (∀ time ∈ times, ∃ n ≤ Word.max, time = (clock n : α)) →
      sim.world.time = clock sim.world.cycles → play past fuel (script.after times) sim = none from
    general [] [] start (by simp) clocked
  induction fuel with
  | zero => exact fun _ _ _ _ _ => rfl
  | succ fuel ih =>
    intro times past sim counted clocked
    have timed : ∀ time ∈ times, isNaN time = false := by
      intro time member
      obtain ⟨n,_,rfl⟩ := counted time member
      exact numbers n
    have remaining : (script.after times).pending ≠ [] := by
      rw [Ne,drained_exact orderly timed filled]
      rintro ⟨time,member,late⟩
      obtain ⟨n,word,rfl⟩ := counted time member
      exact beyond n word late
    rw [play_round remaining]
    have left : ((script.after times).poll sim.world.time).2 = script.after (times ++ [sim.world.time]) := by
      unfold Script.after
      rw [List.foldl_append]
      rfl
    rw [left]
    refine ih _ _ _ ?_ (World.step_clock _ _)
    intro time member
    rcases List.mem_append.mp member with before | now
    · exact counted time before
    · exact ⟨_,Nat.le_of_lt_succ sim.world.count.toNat_lt,(List.mem_singleton.mp now).trans clocked⟩

variable (begun : start.world.cycles = 0) (begun' : start.world.time = clock 0)
include begun begun'

theorem next_reached {n : Nat} {sim : Simulation σ α} {steps : List (ReplayStep α)} (room : n < Word.max)
    (reached : Reached script start n sim steps) (remaining : (script.after (clocks n)).pending ≠ []) :
    Reached script start (n + 1) (round sim (script.dueAt n)).1 (steps ++ (round sim (script.dueAt n)).2) := by
  obtain ⟨traced,cycles,marks,counted,played⟩ := reached
  have time : sim.world.time = clock n := by
    rw [(traced.clocked (by rw [begun,begun'])).2,cycles]
  have counted' := round_cycles (cycles ▸ room) (script.dueAt n)
  refine ⟨traced.append (round_traced sim _),counted'.trans (congrArg (· + 1) cycles),?_,?_,?_⟩
  · rw [List.map_append,marks,round_marks,cycles,List.range_succ,List.flatMap_append]
    simp [Script.turn]
  · rw [List.filterMap_append,round_cycle,List.length_append,counted]
    rfl
  · intro fuel
    have left : script.after (clocks (n + 1)) = ((script.after (clocks n)).poll (clock n)).2 := by
      unfold Script.after
      rw [clocks_succ,List.foldl_append]
      rfl
    rw [Nat.add_assoc,Nat.add_comm 1,played,play_round remaining,time,dueAt_polled orderly numbers,left,
      List.reverse_append]

variable (filled : script.pending ≠ [])
include filled

-- What is left of a script keeps the loop going up to the round that comes after the last command.
theorem reached {N : Nat} (room : N < Word.max) (least : N ∈ lowerBounds {n | script.duration ≤ clock n}) :
    ∀ n ≤ N + 1, ∃ sim steps, Reached script start n sim steps := by
  intro n bound
  induction n with
  | zero => exact ⟨start,[],.rest start,begun,rfl,rfl,fun fuel => by rw [Nat.zero_add]; rfl⟩
  | succ n ih =>
    obtain ⟨sim,steps,before⟩ := ih (by omega)
    have remaining : (script.after (clocks n)).pending ≠ [] := by
      rw [Ne,drained_exact orderly (clocks_number numbers n) filled]
      rintro ⟨time,member,late⟩
      obtain ⟨k,earlier,rfl⟩ := List.mem_map.mp member
      have := List.mem_range.mp earlier
      have := least late
      omega
    exact ⟨_,_,next_reached orderly numbers begun begun' (by omega) before remaining⟩

theorem replayed {N : Nat} (room : N < Word.max) (least : IsLeast {n | script.duration ≤ clock n} N) :
    ∃ final steps, Replayed script start N final steps ∧
      ∀ fuel, N + 2 ≤ fuel → play [] fuel script start = some (final,steps) := by
  obtain ⟨final,steps,⟨traced,cycles,marks,counted,played⟩⟩ :=
    reached orderly numbers begun begun' filled room least.2 (N + 1) le_rfl
  have drained : (script.after (clocks (N + 1))).pending = [] :=
    (drained_exact orderly (clocks_number numbers _) filled).mpr
      ⟨clock N,List.mem_map_of_mem (List.mem_range.mpr N.lt_succ_self),least.1⟩
  obtain ⟨clocked,last⟩ := traced.clocked (by rw [begun,begun'])
  refine ⟨final,steps,⟨least,traced,marks,counted,?_,clocked,cycles,cycles ▸ last⟩,?_⟩
  · have marked : steps.filterMap ReplayStep.command? = (steps.map ReplayStep.mark).filterMap Prod.snd := by
      rw [List.filterMap_map]
      rfl
    rw [marked,marks,script.turns_commands,← returned_clocks orderly numbers]
    exact (script.returned_all _).mpr drained
  · intro fuel enough
    obtain ⟨more,rfl⟩ := Nat.exists_eq_add_of_le enough
    rw [show N + 2 + more = N + 1 + (more + 1) by omega,played,play_ended drained,List.reverse_reverse]

end Loop
end Replay
end Headway
