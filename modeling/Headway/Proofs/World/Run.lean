import Headway.World

-- A world over a run: commands in any order, and steps under any plans between them.
namespace Headway.World
open Scalar
variable {α : Type} [Scalar α]

inductive Event (α : Type) where
  | command (command : Command α)
  | step (plan : Plan α)

def advance (world : World α) : Event α → World α
  | .command command => world.exec command
  | .step plan => world.step plan

def through (world : World α) (events : List (Event α)) : World α := events.foldl advance world

theorem through_append (world : World α) (events more : List (Event α)) :
    world.through (events ++ more) = (world.through events).through more := List.foldl_append

theorem through_written {β : Type} (field : World α → β) {written? : Event α → Option β}
    (writes : ∀ world event, field (world.advance event) = (written? event).getD (field world))
    (world : World α) (events : List (Event α)) :
    field (world.through events) = (events.filterMap written?).getLast?.getD (field world) := by
  induction events generalizing world with
  | nil => rfl
  | cons event rest ih =>
    have next := ih (world.advance event)
    rw [writes] at next
    refine next.trans ?_
    cases here : written? event with
    | none => simp [here]
    | some value => simp [here,List.getLast?_cons]

theorem last_written {β γ : Type} {written? : β → Option γ} {events : List β} {value : γ}
    (last : (events.filterMap written?).getLast? = some value) :
    ∃ before event after, events = before ++ event :: after ∧ written? event = some value ∧
      ∀ later ∈ after, written? later = none := by
  rw [List.getLast?_filterMap,List.findSome?_eq_some_iff] at last
  obtain ⟨after,event,before,split,wrote,silent⟩ := last
  refine ⟨before.reverse,event,after.reverse,?_,wrote,?_⟩
  · rw [← List.reverse_reverse events,split]
    simp
  · intro later member
    exact silent later (List.mem_reverse.mp member)

-- A flag that is set, and was not before a run, was set by the last event that wrote it.
theorem set_since (field : World α → Bool) {written? : Event α → Option Bool}
    (writes : ∀ world event, field (world.advance event) = (written? event).getD (field world))
    (world : World α) {events : List (Event α)} (unset : field world = false)
    (set : field (world.through events) = true) :
    ∃ before event after, events = before ++ event :: after ∧ written? event = some true ∧
      ∀ later ∈ after, written? later = none := by
  rw [through_written field writes,unset] at set
  cases last : (events.filterMap written?).getLast? with
  | none =>
    rw [last] at set
    cases set
  | some value =>
    rw [last] at set
    obtain rfl : value = true := set
    exact last_written last

end Headway.World
