import Headway.Proofs.Double.Reading
import Headway.Script

-- What an accepted scenario script is: its statements in their order, each read, at times that are numbers, and none of
-- them behind a later one.
namespace Headway
open Scalar

namespace Statement

theorem time?_number {statement : Statement} {time : Float} (read : statement.time? = some time) :
    time.isNaN = false := by
  unfold time? at read
  split at read
  · cases read
    exact Decimal.nearestOfDigits_number _ _ 0
  · cases read

structure Reads (statement : Statement) (entry : Scheduled Float) : Prop where
  time : statement.time? = some entry.time
  command : Command.read statement.command = .ok entry.command

end Statement

namespace Script

inductive Schedules : Option Float → List Statement → List (Scheduled Float) → Prop where
  | nil : Schedules last [] []
  | cons {statement : Statement} {entry : Scheduled Float} {rest : List Statement} {later : List (Scheduled Float)}
      {last : Option Float} (reads : statement.Reads entry)
      (inOrder : ∀ after, last = some after → ¬ entry.time < after) (tail : Schedules (some entry.time) rest later) :
      Schedules last (statement :: rest) (entry :: later)

theorem schedule_sound {last : Option Float} {statements : List Statement} {pending : List (Scheduled Float)}
    (accepted : schedule last statements = .ok pending) : Schedules last statements pending := by
  induction statements generalizing last pending with
  | nil =>
    cases accepted
    exact .nil
  | cons statement rest ih =>
    unfold schedule at accepted
    cases read : statement.time? with
    | none =>
      rw [read] at accepted
      cases accepted
    | some time =>
      rw [read] at accepted
      dsimp only at accepted
      cases early : last.filter (time < ·) with
      | some after =>
        rw [early] at accepted
        cases accepted
      | none =>
        rw [early] at accepted
        dsimp only at accepted
        cases asked : Command.read statement.command with
        | error cause =>
          rw [asked] at accepted
          cases accepted
        | ok command =>
          rw [asked] at accepted
          cases scheduled : schedule (some time) rest with
          | error cause =>
            rw [scheduled] at accepted
            cases accepted
          | ok later =>
            rw [scheduled] at accepted
            cases accepted
            exact .cons ⟨read,asked⟩ (by rintro after rfl; simpa using early) (ih scheduled)

theorem schedule_complete {last : Option Float} {statements : List Statement} {pending : List (Scheduled Float)}
    (schedules : Schedules last statements pending) : schedule last statements = .ok pending := by
  induction schedules with
  | nil => rfl
  | @cons statement entry rest later last reads inOrder _ ih =>
    have early : last.filter (entry.time < ·) = none := by simpa [Option.filter_eq_none_iff] using inOrder
    unfold schedule
    rw [reads.time]
    dsimp only
    rw [early]
    dsimp only
    rw [reads.command]
    dsimp only
    rw [ih]
    rfl

theorem schedule_exact {last : Option Float} {statements : List Statement} {pending : List (Scheduled Float)} :
    schedule last statements = .ok pending ↔ Schedules last statements pending :=
  ⟨schedule_sound,schedule_complete⟩

theorem parse_exact {text : String} {script : Script Float} :
    parse text = .ok script ↔ Schedules none (Statement.all text.toList) script.pending ∧ script.pending ≠ [] := by
  obtain ⟨pending⟩ := script
  rw [← schedule_exact]
  unfold parse read
  constructor
  · intro accepted
    split at accepted
    · cases accepted
    · cases accepted
    · rename_i entries filled scheduled
      cases accepted
      exact ⟨scheduled,filled⟩
  · rintro ⟨scheduled,filled⟩
    rw [scheduled]
    cases pending with
    | nil => exact absurd rfl filled
    | cons first rest => rfl

theorem Schedules.reads {last : Option Float} {statements : List Statement} {pending : List (Scheduled Float)}
    (schedules : Schedules last statements pending) : List.Forall₂ Statement.Reads statements pending := by
  induction schedules with
  | nil => exact .nil
  | cons reads _ _ ih => exact .cons reads ih

variable {α : Type} [Scalar α]

structure Orderly (script : Script α) : Prop where
  numbers : ∀ entry ∈ script.pending, isNaN entry.time = false
  ordered : script.pending.Pairwise (·.time ≤ ·.time)

theorem Orderly.of_filter {script kept : Script α} {chosen : Scheduled α → Bool} (orderly : script.Orderly)
    (same : kept.pending = script.pending.filter chosen) : kept.Orderly := by
  constructor
  · rw [same]
    exact fun entry member => orderly.numbers entry (List.mem_of_mem_filter member)
  · rw [same]
    exact orderly.ordered.filter chosen

-- The duration of a script is the time of its last command, and no command is later.
theorem Orderly.last [Ordered α] {script : Script α} (orderly : script.Orderly) (filled : script.pending ≠ []) :
    ∃ last ∈ script.pending, script.duration = last.time ∧ ∀ entry ∈ script.pending, entry.time ≤ last.time := by
  refine ⟨script.pending.getLast filled,List.getLast_mem filled,?_,?_⟩
  · unfold duration
    rw [List.getLast?_eq_some_getLast filled]
  · have split := List.dropLast_append_getLast filled
    have ordered := orderly.ordered
    rw [← split] at ordered
    intro entry member
    rw [← split] at member
    rcases List.mem_append.mp member with earlier | same
    · exact (List.pairwise_append.mp ordered).2.2 entry earlier _ (.head _)
    · rw [List.mem_singleton.mp same]
      exact Ordered.le_refl (orderly.numbers _ (List.getLast_mem filled))

theorem Schedules.orderly {last : Option Float} {statements : List Statement} {pending : List (Scheduled Float)}
    (schedules : Schedules last statements pending) (number : ∀ after, last = some after → after.isNaN = false) :
    Orderly ⟨pending⟩ ∧ ∀ after, last = some after → ∀ entry ∈ pending, after ≤ entry.time := by
  induction schedules with
  | nil => exact ⟨⟨nofun,.nil⟩,nofun⟩
  | @cons statement entry rest later last reads inOrder _ ih =>
    have timed := Statement.time?_number reads.time
    obtain ⟨⟨numbers,ordered⟩,above⟩ := ih fun _ same => Option.some.inj same ▸ timed
    refine ⟨⟨?_,List.pairwise_cons.mpr ⟨above entry.time rfl,ordered⟩⟩,?_⟩
    · intro other member
      rcases List.mem_cons.mp member with rfl | member
      · exact timed
      · exact numbers other member
    · intro after behind other member
      have bound := Ordered.le_of_not_lt (number after behind) timed (inOrder after behind)
      rcases List.mem_cons.mp member with rfl | member
      · exact bound
      · exact Ordered.le_trans bound (above entry.time rfl other member)

theorem parse_orderly {text : String} {script : Script Float} (accepted : parse text = .ok script) :
    script.Orderly :=
  ((parse_exact.mp accepted).1.orderly (by simp)).1

end Script
end Headway
