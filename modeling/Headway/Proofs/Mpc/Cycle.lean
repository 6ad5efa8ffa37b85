import Headway.Proofs.Mpc.Course

-- One cycle of an instance taken apart. Later proofs speak of these parts and do not open the cycle again.
namespace Headway.Mpc
open Scalar
variable {σ α : Type} [Scalar α]

def leadOf (input : MpcInput α) : Option (LeadGeometry α) := (followed input).map (·.1)

def aim (input : MpcInput α) : LeadGeometry α := (leadOf input).getD (.absent input.ego.speed)

def knows (mpc : Mpc σ α) (weight : α) : Bool :=
  match mpc.weight with
  | some last => last == weight
  | none => false

-- A part that does not touch a field leaves it alone, whatever the field: a frame is said once, as the
-- record the part starts from with the fields it may set, and read off by projection.
theorem settle_frame (mpc : Mpc σ α) (outcome : Except (SolverFault α) (Solution α × Instant α × Instant α)) :
    (mpc.settle outcome).1 =
      { mpc with
        course := (mpc.settle outcome).1.course
        speed := (mpc.settle outcome).1.speed
        accel := (mpc.settle outcome).1.accel
        futureSpeed := (mpc.settle outcome).1.futureSpeed } := by
  cases outcome with
  | error fault => rfl
  | ok solution => rfl

theorem settle_kept {mpc : Mpc σ α} {outcome : Except (SolverFault α) (Solution α × Instant α × Instant α)}
    (kept : (mpc.settle outcome).2 = none) :
    ∃ solution next ahead, outcome = .ok (solution,next,ahead) ∧
      courseFault solution.course mpc.hasLead = none := by
  cases outcome with
  | error fault => cases kept
  | ok answer =>
    obtain ⟨solution,next,ahead⟩ := answer
    exact ⟨solution,next,ahead,rfl,kept⟩

variable [Solver σ α]

def gapFor (mpc : Mpc σ α) (input : MpcInput α) : α :=
  (mpc.follow input.ego.speed (followed input)).chooseGap input.ego (leadOf input)

def weightFor (mpc : Mpc σ α) (input : MpcInput α) : α :=
  DistanceWeight.select (mpc.gapFor input) input.ego.speed (leadOf input)

def prepared (mpc : Mpc σ α) (input : MpcInput α) : Mpc σ α :=
  { mpc.follow input.ego.speed (followed input) with gap := mpc.gapFor input }.applyWeight
    (mpc.weightFor input)

def posed (mpc : Mpc σ α) (input : MpcInput α) : Problem α :=
  ⟨(mpc.prepared input).seed,(aim input).accel,(mpc.prepared input).leadDecay,mpc.gapFor input⟩

def answered (mpc : Mpc σ α) (input : MpcInput α) : Solve α × σ :=
  Solver.solve (mpc.posed input) (mpc.prepared input).solver

def judged (mpc : Mpc σ α) (input : MpcInput α) :
    Except (SolverFault α) (Solution α × Instant α × Instant α) :=
  judge (mpc.prepared input).params (mpc.answered input).1

def settled (mpc : Mpc σ α) (input : MpcInput α) : Mpc σ α × Option (ResetCause α) :=
  { mpc.prepared input with solver := (mpc.answered input).2 }.settle (mpc.judged input)

def finished (mpc : Mpc σ α) (input : MpcInput α) : Mpc σ α :=
  if (mpc.settled input).2.isSome then (mpc.settled input).1.restart input else (mpc.settled input).1

theorem update_exact (mpc : Mpc σ α) (input : MpcInput α) :
    mpc.update input = (mpc.finished input,
      { id := (mpc.finished input).id
        lead := leadOf input
        newLead := (mpc.finished input).newLead
        hasLead := (mpc.finished input).hasLead
        gap := mpc.gapFor input
        weight := mpc.weightFor input
        iterations := iterationsOf (mpc.judged input)
        solveTime := (mpc.answered input).1.took
        reset := (mpc.settled input).2
        resetLogged := (mpc.settled input).2.isSome && (mpc.settled input).1.resetLogDue input.time
        leadAccelEstimate := (mpc.finished input).history.accelEstimate
        diagnostic :=
          if (mpc.finished input).params.verbose then
            some ⟨(mpc.finished input).id,(mpc.finished input).course,(mpc.finished input).leadDecay,
              iterationsOf (mpc.judged input)⟩
          else none }) := rfl

theorem update_state (mpc : Mpc σ α) (input : MpcInput α) :
    (mpc.update input).1 =
      if (mpc.update input).2.reset.isSome then (mpc.settled input).1.restart input
      else (mpc.settled input).1 := rfl

theorem update_reset (mpc : Mpc σ α) (input : MpcInput α) :
    (mpc.update input).2.reset = (mpc.settled input).2 := rfl

theorem follow_frame (mpc : Mpc σ α) (input : MpcInput α) :
    mpc.follow input.ego.speed (followed input) =
      { mpc with
        solver := match followed input with
          | some (lead,decay) =>
              if mpc.isNewLead lead then Solver.prime mpc.speed lead decay mpc.solver else mpc.solver
          | none => mpc.solver
        seed := { mpc.seed with
          egoPosition := 0.0
          leadPosition := (aim input).distance
          leadSpeed := (aim input).speed }
        track := (leadOf input).map (·.distance)
        newLead := (leadOf input).any mpc.isNewLead
        leadDecay := (mpc.follow input.ego.speed (followed input)).leadDecay
        history := mpc.history.record ((leadOf input).map (·.speed)) } := by
  unfold aim leadOf
  cases followed input with
  | none => rfl
  | some lead => rfl

theorem applyWeight_frame (mpc : Mpc σ α) (weight : α) :
    mpc.applyWeight weight =
      { mpc with
        solver := if mpc.knows weight then mpc.solver
          else Solver.reweigh (Weights.standardAt weight) mpc.solver
        weight := if mpc.knows weight then mpc.weight else some weight } := by
  change (if mpc.knows weight then mpc else _) = _
  split <;> rfl

theorem prepared_frame (mpc : Mpc σ α) (input : MpcInput α) :
    mpc.prepared input =
      { mpc.follow input.ego.speed (followed input) with
        gap := mpc.gapFor input
        solver := (mpc.prepared input).solver
        weight := (mpc.prepared input).weight } := by
  unfold prepared
  rw [applyWeight_frame]

theorem prepared_seed (mpc : Mpc σ α) (input : MpcInput α) :
    (mpc.prepared input).seed =
      { mpc.seed with
        egoPosition := 0.0
        leadPosition := (aim input).distance
        leadSpeed := (aim input).speed } := by
  rw [prepared_frame,follow_frame]

theorem settled_track (mpc : Mpc σ α) (input : MpcInput α) :
    (mpc.settled input).1.track = (leadOf input).map (·.distance) := by
  rw [settled,settle_frame,prepared_frame,follow_frame]

theorem settled_newLead (mpc : Mpc σ α) (input : MpcInput α) :
    (mpc.settled input).1.newLead = (leadOf input).any mpc.isNewLead := by
  rw [settled,settle_frame,prepared_frame,follow_frame]

theorem settled_solver (mpc : Mpc σ α) (input : MpcInput α) :
    (mpc.settled input).1.solver = (mpc.answered input).2 := by
  rw [settled,settle_frame]

theorem update_track (mpc : Mpc σ α) (input : MpcInput α) :
    (mpc.update input).1.track =
      if (mpc.update input).2.reset.isSome then none else (leadOf input).map (·.distance) := by
  rw [update_state]
  split
  · rfl
  · exact settled_track mpc input

theorem update_newLead (mpc : Mpc σ α) (input : MpcInput α) :
    (mpc.update input).2.newLead = (leadOf input).any mpc.isNewLead := by
  change (mpc.update input).1.newLead = _
  rw [update_state]
  split
  · exact settled_newLead mpc input
  · exact settled_newLead mpc input

theorem update_solver (mpc : Mpc σ α) (input : MpcInput α) :
    (mpc.update input).1.solver =
      if (mpc.update input).2.reset.isSome then Solver.restart Weights.standard (mpc.answered input).2
      else (mpc.answered input).2 := by
  rw [update_state]
  split
  · exact congrArg (Solver.restart Weights.standard) (settled_solver mpc input)
  · exact settled_solver mpc input

theorem update_id (mpc : Mpc σ α) (input : MpcInput α) : (mpc.update input).1.id = mpc.id := by
  have settled : (mpc.settled input).1.id = mpc.id := by
    rw [Mpc.settled,settle_frame,prepared_frame,follow_frame]
  rw [update_state]
  split
  · exact settled
  · exact settled

theorem update_params (mpc : Mpc σ α) (input : MpcInput α) : (mpc.update input).1.params = mpc.params := by
  have settled : (mpc.settled input).1.params = mpc.params := by
    rw [Mpc.settled,settle_frame,prepared_frame,follow_frame]
  rw [update_state]
  split
  · exact settled
  · exact settled

-- What stands behind a proposal of an instance: this cycle's own solve, kept, and sound.
structure Backed (mpc : Mpc σ α) (report : MpcReport α) (speed accel : α) : Prop where
  kept : report.reset = none
  sound : mpc.course.Sound
  next : ∃ next, mpc.course.instant? 1 = some next ∧ speed = next.egoSpeed ∧ accel = next.egoAccel

theorem tracking_exact (mpc : Mpc σ α) (input : MpcInput α) : (mpc.update input).1.hasLead = true ↔
    (mpc.update input).2.reset = none ∧ (leadOf input).isSome = true := by
  unfold hasLead
  rw [update_track]
  cases (mpc.update input).2.reset <;> simp

theorem reset_none_exact (mpc : Mpc σ α) (input : MpcInput α) : (mpc.update input).2.reset = none ↔
    ∃ solution next ahead, mpc.judged input = .ok (solution,next,ahead) ∧
      courseFault solution.course (leadOf input).isSome = none := by
  have tracked : ({ mpc.prepared input with solver := (mpc.answered input).2 } : Mpc σ α).hasLead =
      (leadOf input).isSome := by
    rw [hasLead,prepared_frame,follow_frame]
    exact Option.isSome_map
  rw [update_reset,settled,← tracked]
  constructor
  · exact settle_kept
  · rintro ⟨solution,next,ahead,outcome,passed⟩
    rw [outcome]
    exact passed

theorem update_kept (mpc : Mpc σ α) (input : MpcInput α) {solution : Solution α} {next ahead : Instant α}
    (kept : (mpc.update input).2.reset = none) (outcome : mpc.judged input = .ok (solution,next,ahead)) :
    (mpc.update input).1.course = solution.course ∧ (mpc.update input).1.speed = next.egoSpeed ∧
      (mpc.update input).1.accel = next.egoAccel := by
  rw [update_state,kept,settled,outcome]
  exact ⟨rfl,rfl,rfl⟩

theorem backed_of_tracking (mpc : Mpc σ α) (input : MpcInput α)
    (tracking : (mpc.update input).1.hasLead = true) :
    Backed (mpc.update input).1 (mpc.update input).2 (mpc.update input).1.speed
      (mpc.update input).1.accel := by
  obtain ⟨reset,there⟩ := (tracking_exact mpc input).mp tracking
  obtain ⟨solution,next,ahead,outcome,passed⟩ := (reset_none_exact mpc input).mp reset
  obtain ⟨course,speed,accel⟩ := update_kept mpc input reset outcome
  rw [there] at passed
  refine ⟨reset,?_,next,?_,speed,accel⟩
  · rw [course]
    exact sound_of_kept outcome passed
  · rw [course]
    exact (judge_ok outcome).1

def leadAhead : MpcInput Float where
  time := 0.0
  ego := .moving 20.0
  lead := some ⟨true,40.0,20.0,20.0,0.0,0.0,0.0,1.5,0.0⟩
  phantom := none

end Headway.Mpc
