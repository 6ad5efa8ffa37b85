import Headway.Proofs.World.Run

-- Who has the pedals. Braking ends an engagement, but it does not keep the next one from starting: an engagement that
-- is ordered while the brake is held stands beside it.
namespace Headway
variable {α : Type}

def Command.engagement? : Command α → Option Bool
  | .engage => some true
  | .disengage | .brake true => some false
  | _ => none

def Command.braking? : Command α → Option Bool
  | .brake pressed => some pressed
  | _ => none

namespace World

def Event.engagement? : Event α → Option Bool
  | .command order => order.engagement?
  | .step _ => none

def Event.braking? : Event α → Option Bool
  | .command order => order.braking?
  | .step _ => none

theorem Event.braking?_some {event : Event α} {pressed : Bool} (brakes : event.braking? = some pressed) :
    event = .command (.brake pressed) := by
  cases event with
  | step plan => cases brakes
  | command order =>
    cases order with
    | brake held =>
      cases brakes
      rfl
    | _ => cases brakes

theorem Event.engagement?_true {event : Event α} (engages : event.engagement? = some true) :
    event = .command .engage := by
  cases event with
  | step plan => cases engages
  | command order =>
    cases order with
    | engage => rfl
    | brake pressed => cases pressed <;> cases engages
    | _ => cases engages

theorem Event.engagement?_false {event : Event α} (ends : event.engagement? = some false) :
    event = .command .disengage ∨ event = .command (.brake true) := by
  cases event with
  | step plan => cases ends
  | command order =>
    cases order with
    | disengage => exact .inl rfl
    | brake pressed =>
      cases pressed with
      | false => cases ends
      | true => exact .inr rfl
    | _ => cases ends

variable [Scalar α]

theorem advance_engaged (world : World α) (event : Event α) :
    (world.advance event).engaged = event.engagement?.getD world.engaged := by
  cases event with
  | step plan => rfl
  | command order =>
    cases order with
    | brake pressed =>
      cases pressed with
      | false => exact Bool.and_true _
      | true => exact Bool.and_false _
    | _ => rfl

theorem advance_braking (world : World α) (event : Event α) :
    (world.advance event).ego.brakePressed = event.braking?.getD world.ego.brakePressed := by
  cases event with
  | step plan => rfl
  | command order => cases order <;> rfl

-- The brake was pressed and never touched again, and behind that an engagement was ordered and not taken back.
def Overridden (events : List (Event α)) : Prop :=
  ∃ before between after, events = before ++ .command (.brake true) :: between ++ .command .engage :: after ∧
    (∀ event ∈ between ++ after, event.braking? = none) ∧ .command .disengage ∉ after

section Pedals
variable (world : World α) {events : List (Event α)}

theorem held_braking (untouched : ∀ event ∈ events, event.braking? = none) :
    (world.through events).ego.brakePressed = world.ego.brakePressed := by
  rw [through_written (·.ego.brakePressed) advance_braking]
  have silent : events.filterMap Event.braking? = [] := List.filterMap_eq_nil_iff.mpr untouched
  rw [silent]
  rfl

theorem held_engaged (engaged : world.engaged = true) (kept : ∀ event ∈ events, event.engagement? ≠ some false) :
    (world.through events).engaged = true := by
  rw [through_written (·.engaged) advance_engaged,engaged]
  cases last : (events.filterMap Event.engagement?).getLast? with
  | none => rfl
  | some value =>
    obtain ⟨event,member,wrote⟩ := List.mem_filterMap.mp (List.mem_of_getLast? last)
    cases value with
    | true => rfl
    | false => exact absurd wrote (kept event member)

theorem engaged_since (idle : world.engaged = false) (engaged : (world.through events).engaged = true) :
    ∃ before after, events = before ++ .command .engage :: after ∧ ∀ event ∈ after, event.engagement? = none := by
  obtain ⟨before,event,after,split,wrote,silent⟩ := set_since (·.engaged) advance_engaged world idle engaged
  rw [Event.engagement?_true wrote] at split
  exact ⟨before,after,split,silent⟩

theorem braking_since (released : world.ego.brakePressed = false)
    (pressed : (world.through events).ego.brakePressed = true) :
    ∃ before after, events = before ++ .command (.brake true) :: after ∧ ∀ event ∈ after, event.braking? = none := by
  obtain ⟨before,event,after,split,wrote,silent⟩ :=
    set_since (·.ego.brakePressed) advance_braking world released pressed
  rw [Event.braking?_some wrote] at split
  exact ⟨before,after,split,silent⟩

end Pedals

theorem overridden_of_both (world : World α) {events : List (Event α)} (released : world.ego.brakePressed = false)
    (engaged : (world.through events).engaged = true) (pressed : (world.through events).ego.brakePressed = true) :
    Overridden events := by
  obtain ⟨before,behind,rfl,untouched⟩ := braking_since world released pressed
  -- The press itself ended any engagement, so the one that stands was ordered behind it.
  rw [through_append] at engaged
  obtain ⟨between,after,rfl,silent⟩ := engaged_since ((world.through before).exec (.brake true))
    (Bool.and_false _) engaged
  refine ⟨before,between,after,by simp,?_,?_⟩
  · intro event member
    apply untouched event
    rcases List.mem_append.mp member with first | last
    · exact List.mem_append_left _ first
    · exact List.mem_append_right _ (List.mem_cons_of_mem _ last)
  · intro ended
    cases silent _ ended

theorem both_of_overridden {events : List (Event α)} (overridden : Overridden events) (world : World α) :
    (world.through events).engaged = true ∧ (world.through events).ego.brakePressed = true := by
  obtain ⟨before,between,after,rfl,untouched,kept⟩ := overridden
  rw [through_append,through_append]
  constructor
  · apply held_engaged (((world.through before).through (.command (.brake true) :: between)).exec .engage) rfl
    intro event member ended
    rcases Event.engagement?_false ended with rfl | rfl
    · exact kept member
    · cases untouched _ (List.mem_append_right _ member)
  · have later := held_braking (((world.through before).through (.command (.brake true) :: between)).exec .engage)
      fun event member => untouched event (List.mem_append_right between member)
    have earlier := held_braking ((world.through before).exec (.brake true))
      fun event member => untouched event (List.mem_append_left after member)
    exact later.trans earlier

-- When the planner is told of an engaged controller and a pressed brake at once.
theorem engaged_braking_exact (speed : α) (events : List (Event α)) :
    let world := (start speed).through events
    (world.engaged = true ∧ world.ego.brakePressed = true ↔ Overridden events) ∧
      (world.input.control.engaged = true ∧ world.input.ego.brakePressed = true ↔ Overridden events) := by
  intro world
  have exactly : world.engaged = true ∧ world.ego.brakePressed = true ↔ Overridden events := by
    constructor
    · rintro ⟨engaged,pressed⟩
      exact overridden_of_both (start speed) rfl engaged pressed
    · intro overridden
      exact both_of_overridden overridden (start speed)
  have told : world.input.control.engaged = world.engaged := by
    unfold input
    cases world.engaged <;> rfl
  refine ⟨exactly,?_⟩
  rw [told]
  exact exactly

theorem engaged_while_braking :
    let world := (start (20.0 : Float)).through [.command (.brake true),.command .engage]
    world.engaged = true ∧ world.ego.brakePressed = true ∧ world.input.control = .pid ∧
      world.input.ego.brakePressed = true :=
  ⟨rfl,rfl,rfl,rfl⟩

end World
end Headway
