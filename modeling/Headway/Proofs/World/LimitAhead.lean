import Headway.Proofs.World.Motion

-- A limit that is announced at a distance. It waits until the ego has travelled that far, counted from step to step, and
-- is the present one from the step that gets there on.
namespace Headway.World
open Scalar

def Event.limits {α : Type} : Event α → Bool
  | .command (.setLimit _) | .command (.setLimitAhead ..) | .command .clearLimitAhead => true
  | _ => false

def Event.steps {α : Type} : Event α → Bool
  | .command _ => false
  | .step _ => true

-- The mean of the speeds before and after a step, for as long as it takes. A command takes no time.
noncomputable def gone (world : World ℝ) : Event ℝ → ℝ
  | .command _ => 0
  | .step plan => covered world.ego.speed (world.step plan).ego.speed

noncomputable def way (world : World ℝ) : List (Event ℝ) → ℝ
  | [] => 0
  | event :: rest => world.gone event + (world.advance event).way rest

-- Some step of the run was the first to have gone that far, or a later one.
def Reached (world : World ℝ) (distance : ℝ) (events : List (Event ℝ)) : Prop :=
  ∃ before plan after, events = before ++ .step plan :: after ∧ distance ≤ world.way (before ++ [.step plan])

-- The limit is still ahead, and the map knows of the present one what it knew before.
structure Awaits (known : RoadMap ℝ) (limit remaining : ℝ) (map : RoadMap ℝ) : Prop where
  ahead : map.nextLimitKnown = true
  limit : map.nextLimit = limit
  distance : map.nextLimitDistance = remaining
  presentKnown : map.limitKnown = known.limitKnown
  present : map.limit = known.limit

structure InForce (limit : ℝ) (map : RoadMap ℝ) : Prop where
  known : map.limitKnown = true
  limit : map.limit = limit
  passed : map.nextLimitKnown = false

section Way
variable (world : World ℝ) {distance : ℝ}

theorem advance_forward {event : Event ℝ} (forward : event.steps = true ∨ 0 ≤ world.ego.speed) :
    0 ≤ (world.advance event).ego.speed := by
  cases event with
  | step plan => exact nextSpeed_nonneg _ _
  | command order =>
    have kept : (world.exec order).ego.speed = world.ego.speed := by cases order <;> rfl
    rw [advance,kept]
    exact forward.resolve_left Bool.false_ne_true

theorem gone_nonneg (forward : 0 ≤ world.ego.speed) (event : Event ℝ) : 0 ≤ world.gone event := by
  cases event with
  | command order => exact le_rfl
  | step plan =>
    have after : 0 ≤ (world.advance (.step plan)).ego.speed := world.advance_forward (.inl rfl)
    change 0 ≤ (world.step plan).ego.speed at after
    unfold gone covered stepTime
    rw [half_exact]
    positivity

theorem way_nonneg (forward : 0 ≤ world.ego.speed) (events : List (Event ℝ)) : 0 ≤ world.way events := by
  induction events generalizing world with
  | nil => exact le_rfl
  | cons event rest ih =>
    exact add_nonneg (world.gone_nonneg forward event) (ih _ (world.advance_forward (.inr forward)))

theorem way_commands {events : List (Event ℝ)} (commands : ∀ event ∈ events, event.steps = false) :
    world.way events = 0 := by
  induction events generalizing world with
  | nil => rfl
  | cons event rest ih =>
    obtain ⟨first,later⟩ := List.forall_mem_cons.mp commands
    cases event with
    | step plan => cases first
    | command order => simp [way,gone,ih _ later]

theorem reached_cons (event : Event ℝ) (rest : List (Event ℝ)) :
    world.Reached distance (event :: rest) ↔ (event.steps = true ∧ distance ≤ world.gone event) ∨
      (world.advance event).Reached (distance - world.gone event) rest := by
  constructor
  · rintro ⟨before,plan,after,split,far⟩
    rcases List.cons_eq_append_iff.mp split with ⟨rfl,first⟩ | ⟨front,rfl,rfl⟩
    · cases first
      simp only [List.nil_append,way,add_zero] at far
      exact .inl ⟨rfl,far⟩
    · simp only [List.cons_append,way] at far
      exact .inr ⟨front,plan,after,rfl,by linarith⟩
  · rintro (⟨steps,far⟩ | ⟨before,plan,after,rfl,far⟩)
    · cases event with
      | command order => cases steps
      | step plan => exact ⟨[],plan,rest,rfl,by simpa [way] using far⟩
    · refine ⟨event :: before,plan,after,rfl,?_⟩
      simp only [List.cons_append,way]
      linarith

-- From the first step on the ego no longer goes back, so the last step has gone as far as any.
theorem reached_exact (events : List (Event ℝ)) :
    world.Reached distance events ↔ (∃ event ∈ events, event.steps = true) ∧ distance ≤ world.way events := by
  induction events generalizing world distance with
  | nil => simp [Reached]
  | cons event rest ih =>
    rw [reached_cons,ih,List.exists_mem_cons_iff,way,sub_le_iff_le_add']
    cases steps : event.steps with
    | false => simp
    | true =>
      have onward : 0 ≤ (world.advance event).way rest :=
        way_nonneg _ (world.advance_forward (.inl steps)) rest
      simp only [true_and,true_or]
      constructor
      · rintro (far | ⟨_,far⟩)
        · linarith
        · exact far
      · intro far
        by_cases more : ∃ event ∈ rest, event.steps = true
        · exact .inr ⟨more,far⟩
        · have none : (world.advance event).way rest = 0 := way_commands _ (by simpa using more)
          exact .inl (by linarith)

end Way

section Maps
variable {known map : RoadMap ℝ} {limit remaining travelled : ℝ}

theorem Awaits.move (awaits : Awaits known limit remaining map) (short : travelled < remaining) :
    Awaits known limit (remaining - travelled) (moveMap map travelled) := by
  have left : ¬ map.nextLimitDistance - travelled ≤ 0.0 := by
    rw [awaits.distance,zero_exact,sub_nonpos]
    exact short.not_ge
  unfold moveMap
  simp only [awaits.ahead,left,if_true,if_false]
  exact ⟨rfl,awaits.limit,by rw [← awaits.distance],awaits.presentKnown,awaits.present⟩

theorem Awaits.arrive (awaits : Awaits known limit remaining map) (far : remaining ≤ travelled) :
    InForce limit (moveMap map travelled) := by
  have spent : map.nextLimitDistance - travelled ≤ 0.0 := by
    rw [awaits.distance,zero_exact,sub_nonpos]
    exact far
  unfold moveMap
  simp only [awaits.ahead,spent,if_true]
  exact ⟨rfl,awaits.limit,rfl⟩

theorem InForce.move (inForce : InForce limit map) (travelled : ℝ) : InForce limit (moveMap map travelled) := by
  unfold moveMap
  simp only [inForce.passed,Bool.false_eq_true,if_false]
  exact ⟨inForce.known,inForce.limit,rfl⟩

theorem exec_map {world : World ℝ} {order : Command ℝ} (unrelated : (Event.command order).limits = false)
    (here : world.map = some map) : ∃ later, (world.exec order).map = some later ∧
      later.limitKnown = map.limitKnown ∧ later.limit = map.limit ∧ later.nextLimitKnown = map.nextLimitKnown ∧
      later.nextLimit = map.nextLimit ∧ later.nextLimitDistance = map.nextLimitDistance := by
  cases order with
  | setLimit | setLimitAhead | clearLimitAhead => cases unrelated
  | setCurvature | clearCurvature =>
    simp only [exec,withMap,here,Option.getD_some]
    exact ⟨_,rfl,rfl,rfl,rfl,rfl,rfl⟩
  | _ => exact ⟨map,here,rfl,rfl,rfl,rfl,rfl⟩

theorem Awaits.exec {world : World ℝ} {order : Command ℝ} (awaits : Awaits known limit remaining map)
    (unrelated : (Event.command order).limits = false) (here : world.map = some map) :
    ∃ later, (world.exec order).map = some later ∧ Awaits known limit remaining later := by
  obtain ⟨later,there,presentKnown,present,ahead,next,distance⟩ := exec_map unrelated here
  exact ⟨later,there,ahead.trans awaits.ahead,next.trans awaits.limit,distance.trans awaits.distance,
    presentKnown.trans awaits.presentKnown,present.trans awaits.present⟩

theorem InForce.advance {world : World ℝ} {event : Event ℝ} (inForce : InForce limit map)
    (unrelated : event.limits = false) (here : world.map = some map) :
    ∃ later, (world.advance event).map = some later ∧ InForce limit later := by
  cases event with
  | command order =>
    obtain ⟨later,there,presentKnown,present,ahead,_⟩ := exec_map unrelated here
    exact ⟨later,there,presentKnown.trans inForce.known,present.trans inForce.limit,ahead.trans inForce.passed⟩
  | step plan =>
    rw [World.advance,step_map,here]
    exact ⟨_,rfl,inForce.move _⟩

theorem InForce.through {world : World ℝ} {events : List (Event ℝ)} (inForce : InForce limit map)
    (unrelated : ∀ event ∈ events, event.limits = false) (here : world.map = some map) :
    ∃ later, (world.through events).map = some later ∧ InForce limit later := by
  induction events generalizing world map with
  | nil => exact ⟨map,here,inForce⟩
  | cons event rest ih =>
    obtain ⟨first,others⟩ := List.forall_mem_cons.mp unrelated
    obtain ⟨next,there,kept⟩ := inForce.advance first here
    exact ih kept others there

-- A limit that waits is passed on from event to event, with what is left of its distance, until a step uses that up.
theorem Awaits.through {world : World ℝ} {events : List (Event ℝ)} (awaits : Awaits known limit remaining map)
    (unrelated : ∀ event ∈ events, event.limits = false) (here : world.map = some map) :
    ∃ later, (world.through events).map = some later ∧
      (¬ world.Reached remaining events → Awaits known limit (remaining - world.way events) later) ∧
      (world.Reached remaining events → InForce limit later) := by
  induction events generalizing world map remaining with
  | nil => exact ⟨map,here,fun _ => by simpa [way] using awaits,fun ⟨_,_,_,split,_⟩ => by simp at split⟩
  | cons event rest ih =>
    obtain ⟨first,others⟩ := List.forall_mem_cons.mp unrelated
    simp only [reached_cons,way,← sub_sub]
    cases event with
    | command order =>
      obtain ⟨next,there,waiting⟩ := awaits.exec first here
      simpa [gone,Event.steps,through,advance] using ih waiting others there
    | step plan =>
      have there : (world.step plan).map = some (moveMap map (world.gone (.step plan))) := by
        rw [step_map,here]
        rfl
      by_cases far : remaining ≤ world.gone (.step plan)
      · obtain ⟨later,last,inForce⟩ := (awaits.arrive far).through others there
        exact ⟨later,last,fun short => absurd (.inl ⟨rfl,far⟩) short,fun _ => inForce⟩
      · simpa [far,Event.steps,through,advance] using ih (awaits.move (not_le.mp far)) others there

end Maps

theorem limit_ahead_arrives (world : World ℝ) (limit distance : ℝ) {events : List (Event ℝ)}
    (unrelated : ∀ event ∈ events, event.limits = false) :
    let announced := world.exec (.setLimitAhead limit distance)
    ∃ map, (announced.through events).map = some map ∧
      (¬ announced.Reached distance events →
        Awaits (world.map.getD .blank) limit (distance - announced.way events) map) ∧
      (announced.Reached distance events → InForce limit map) ∧
      (announced.Reached distance events ↔
        (∃ event ∈ events, event.steps = true) ∧ distance ≤ announced.way events) := by
  intro announced
  have awaits : Awaits (world.map.getD .blank) limit distance { world.map.getD .blank with
      nextLimitKnown := true, nextLimit := limit, nextLimitDistance := distance } := ⟨rfl,rfl,rfl,rfl,rfl⟩
  obtain ⟨map,here,waiting,inForce⟩ := awaits.through unrelated (rfl : announced.map = _)
  exact ⟨map,here,waiting,inForce,announced.reached_exact events⟩

noncomputable def coasting : Plan ℝ :=
  ⟨0,0,0,0,0,0,0,false,.cruise,0,false,false,true,false,0,false⟩

noncomputable def slowing : List (Event ℝ) := [.step coasting,.command (.brake true),.step coasting]

noncomputable def announcing : World ℝ := (start 20.0).exec (.setLimitAhead 15.0 1.5)

theorem slowing_way : announcing.way (slowing.take 2) = 1 ∧ announcing.way slowing = 1.99625 := by
  have first : announcing.gone (.step coasting) = 1 := by
    change covered 20.0 (nextSpeed 20.0 0.0) = (1 : ℝ)
    unfold covered nextSpeed stepTime
    rw [greater_max]
    norm_num
  have second : ((announcing.step coasting).exec (.brake true)).gone (.step coasting) = 0.99625 := by
    change covered (nextSpeed 20.0 0.0) (nextSpeed (nextSpeed 20.0 0.0) (-3.0)) = (0.99625 : ℝ)
    unfold covered nextSpeed stepTime
    rw [greater_max,greater_max]
    norm_num
  constructor
  · change announcing.gone (.step coasting) + (0 + 0) = 1
    rw [first]
    norm_num
  · change announcing.gone (.step coasting) + (0 + (((announcing.step coasting).exec (.brake true)).gone (.step coasting) + 0)) = _
    rw [first,second]
    norm_num

theorem slowing_arrives : (∀ event ∈ slowing, event.limits = false) ∧
    (∃ map, (announcing.through (slowing.take 2)).map = some map ∧ Awaits .blank 15.0 0.5 map) ∧
    ∃ map, (announcing.through slowing).map = some map ∧ InForce 15.0 map := by
  have unrelated : ∀ event ∈ slowing, event.limits = false := by simp [slowing,Event.limits]
  obtain ⟨early,late⟩ := slowing_way
  refine ⟨unrelated,?_,?_⟩
  · obtain ⟨map,here,waiting,_,reached⟩ := limit_ahead_arrives (start 20.0) 15.0 1.5
      fun event member => unrelated event (List.mem_of_mem_take member)
    have short : ¬ announcing.Reached 1.5 (slowing.take 2) := by
      intro far
      have enough : (1.5 : ℝ) ≤ announcing.way (slowing.take 2) := (reached.mp far).2
      rw [early] at enough
      norm_num at enough
    have left : (1.5 : ℝ) - announcing.way (slowing.take 2) = 0.5 := by
      rw [early]
      norm_num
    exact ⟨map,here,left ▸ waiting short⟩
  · obtain ⟨map,here,_,inForce,reached⟩ := limit_ahead_arrives (start 20.0) 15.0 1.5 unrelated
    refine ⟨map,here,inForce (reached.mpr ⟨⟨_,.head _,rfl⟩,?_⟩)⟩
    change (1.5 : ℝ) ≤ announcing.way slowing
    rw [late]
    norm_num

end Headway.World
