import Headway.Proofs.Json.Grammar
import Headway.Proofs.Script.Lines
import Headway.Proofs.Script.Schedule

-- What a script comes to. It is taken if its statements are in order and all for commands; if not, the first of them that
-- will not do decides the error.
namespace Headway

namespace Statement

def seconds (statement : Statement) : Float := Decimal.nearestOfDigits statement.whole statement.fraction 0

structure Gives (statement : Statement) (entry : Scheduled Float) : Prop where
  time : entry.time = statement.seconds
  command : Command.read statement.command = .ok entry.command

-- White space that JSON has as well may be counted to the command or not.
theorem Line.read_command (line : Line) (space : ∀ c ∈ line.space, Json.isSpace c = true) :
    Command.read (line.space ++ line.command) = Command.read line.statement.command := by
  unfold Command.read
  rw [Json.read_spaced ⟨line.space,space,rfl⟩]
  rfl

end Statement

namespace Script

structure Fine (statements : List Statement) : Prop where
  ordered : (statements.map (·.seconds)).Pairwise (· ≤ ·)
  commands : ∀ statement ∈ statements, ∃ command, Command.read statement.command = .ok command

inductive Verdict (statements : List Statement) : Except ScriptError (Script Float) → Prop where
  | empty (none : statements = []) : Verdict statements (.error .empty)
  | accepted {pending : List (Scheduled Float)} (some : statements ≠ []) (fine : Fine statements)
      (given : List.Forall₂ Statement.Gives statements pending) : Verdict statements (.ok ⟨pending⟩)
  | outOfOrder {before after : List Statement} {previous statement : Statement}
      (split : statements = before ++ previous :: statement :: after) (fine : Fine (before ++ [previous]))
      (early : statement.seconds < previous.seconds) :
      Verdict statements (.error (.outOfOrder statement.seconds previous.seconds))
  | badCommand {before after : List Statement} {statement : Statement} {cause : CommandError}
      (split : statements = before ++ statement :: after) (fine : Fine before)
      (late : ∀ previous ∈ before.getLast?, previous.seconds ≤ statement.seconds)
      (refused : Command.read statement.command = .error cause) :
      Verdict statements (.error (.badCommand statement.seconds cause))

-- Why a statement behind one of time `last` will not do.
inductive Refused (last : Option Float) (statement : Statement) : ScriptError → Prop where
  | badTime (untimed : statement.time? = none) : Refused last statement .badTime
  | outOfOrder {found after : Float} (timed : statement.time? = some found) (behind : last = some after)
      (early : found < after) : Refused last statement (.outOfOrder found after)
  | badCommand {time : Float} {cause : CommandError} (timed : statement.time? = some time)
      (inOrder : ∀ after, last = some after → ¬ time < after) (refused : Command.read statement.command = .error cause) :
      Refused last statement (.badCommand time cause)

def latest (last : Option Float) (entries : List (Scheduled Float)) : Option Float :=
  (entries.getLast?.map (·.time)).or last

section Schedule
variable {last : Option Float} {statements rest : List Statement} {statement : Statement} {cause : ScriptError}

end Schedule

section Timed
variable {statements : List Statement} {pending : List (Scheduled Float)}

theorem Refused.verdict {before after : List Statement} {statement : Statement} {cause : ScriptError} (fine : Fine before)
    (timed : statement.time? = some statement.seconds)
    (refused : Refused (before.getLast?.map (·.seconds)) statement cause) :
    Verdict (before ++ statement :: after) (.error cause) := by
  cases refused with
  | badTime untimed =>
    rw [untimed] at timed
    cases timed
  | outOfOrder found behind early =>
    rw [timed] at found
    cases found
    obtain ⟨previous,last,rfl⟩ := Option.map_eq_some_iff.mp behind
    obtain ⟨front,rfl⟩ := List.getLast?_eq_some_iff.mp last
    exact .outOfOrder (List.append_assoc front [previous] (statement :: after)) fine early
  | badCommand found inOrder refused =>
    rw [timed] at found
    cases found
    refine .badCommand rfl fine ?_ refused
    intro previous last
    have number (s : Statement) : s.seconds.isNaN = false := Decimal.nearestOfDigits_number _ _ 0
    exact Ordered.le_of_not_lt (number previous) (number statement)
      (inOrder _ (Option.map_eq_some_iff.mpr ⟨previous,last,rfl⟩))

end Timed

section Verdicts
variable {statements : List Statement} (timed : ∀ statement ∈ statements, statement.time? = some statement.seconds)
include timed

end Verdicts

end Script
end Headway
