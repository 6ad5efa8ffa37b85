import Headway.FollowGap
import Headway.LeadHistory
import Headway.Solver

-- One optimiser instance: the lead it follows, the gap and weight it asks for, the course it gets.
namespace Headway
open Scalar
variable {σ α : Type}

structure MpcParams (α : Type) where
  followingGap : Option α
  useTraffic : Bool
  verbose : Bool
  solverBudget : α
deriving Repr

structure MpcInput (α : Type) where
  time : α
  ego : Ego α
  lead : Option (LeadTrack α)
  phantom : Option (Phantom α)

inductive ResetCause (α : Type) where
  | course (backwards crashing nans : Bool)
  | solver (fault : SolverFault α)
deriving Repr

structure Diagnostic (α : Type) where
  id : Nat
  course : Trajectory α
  leadDecay : α
  iterations : Nat
deriving Repr

structure MpcReport (α : Type) where
  id : Nat
  lead : Option (LeadGeometry α)
  newLead : Bool
  hasLead : Bool
  gap : α
  weight : α
  iterations : Nat
  solveTime : α
  reset : Option (ResetCause α)
  resetLogged : Bool
  leadAccelEstimate : α
  diagnostic : Option (Diagnostic α)
deriving Repr

structure Mpc (σ α : Type) where
  id : Nat
  solver : σ
  params : MpcParams α
  seed : Instant α
  track : Option α
  newLead : Bool
  leadDecay : α
  history : LeadHistory α
  gap : α
  -- None when the solver has been started over.
  weight : Option α
  speed : α
  accel : α
  futureSpeed : α
  course : Trajectory α
  lastResetLog : Option α

namespace Mpc
variable [Scalar α]

def leadJump : α := 2.5
def usualDecay : α := 1.5
def lookAhead : Nat := 10
def resetLogPeriod : α := 5.0

def start [Solver σ α] (id : Nat) (solver : σ) (params : MpcParams α) : Mpc σ α where
  id
  solver := Solver.restart Weights.standard solver
  params
  seed := .rest
  track := none
  newLead := false
  leadDecay := usualDecay
  history := .start
  gap := 0.0
  weight := none
  speed := 0.0
  accel := 0.0
  futureSpeed := 0.0
  course := .none
  lastResetLog := none

def setSeed (mpc : Mpc σ α) (speed accel : α) : Mpc σ α :=
  { mpc with seed := { mpc.seed with egoSpeed := speed, egoAccel := accel } }

def hasLead (mpc : Mpc σ α) : Bool := mpc.track.isSome

def followed (input : MpcInput α) : Option (LeadGeometry α × α) :=
  let lead := Radar.lead? input.lead
  match Phantom.active? input.phantom, lead with
  | some phantom, _ =>
      some (.ofPhantom phantom lead input.ego.speed, (lead.map (·.accelDecay)).getD usualDecay)
  | none, some track => some (.ofTrack track, track.accelDecay)
  | none, none => none

def isNewLead (mpc : Mpc σ α) (lead : LeadGeometry α) : Bool :=
  match mpc.track with
  | none => true
  | some distance => leadJump < abs (lead.distance - distance)

-- An empty road is solved behind a stand-in, which is never tracked and leaves no history.
def follow [Solver σ α] (mpc : Mpc σ α) (egoSpeed : α) : Option (LeadGeometry α × α) → Mpc σ α
  | some (lead, decay) =>
      let newLead := mpc.isNewLead lead
      { mpc with
        solver := if newLead then Solver.prime mpc.speed lead decay mpc.solver else mpc.solver
        seed := { mpc.seed with
          egoPosition := 0.0, leadPosition := lead.distance, leadSpeed := lead.speed }
        track := some lead.distance
        newLead
        leadDecay := decay
        history := mpc.history.record (some lead.speed) }
  | none =>
      let lead := LeadGeometry.absent egoSpeed
      { mpc with
        seed := { mpc.seed with
          egoPosition := 0.0, leadPosition := lead.distance, leadSpeed := lead.speed }
        track := none
        newLead := false
        leadDecay := usualDecay
        history := mpc.history.record none }

def chooseGap (mpc : Mpc σ α) (ego : Ego α) (lead : Option (LeadGeometry α)) : α :=
  match mpc.params.followingGap with
  | some gap => clamp FollowGap.shortest FollowGap.longest gap
  | none =>
      let traffic := if mpc.params.useTraffic then mpc.history.trafficLevel ego.speed else 1.0
      FollowGap.choose ego.speed lead ego.signalling traffic

-- The solver hears of a weight only when it differs from the one it has.
def applyWeight [Solver σ α] (mpc : Mpc σ α) (weight : α) : Mpc σ α :=
  let known := match mpc.weight with
    | some last => last == weight
    | none => false
  if known then mpc
  else { mpc with
    solver := Solver.reweigh (Weights.standardAt weight) mpc.solver
    weight := some weight }

def judge (params : MpcParams α) (answer : Solve α) :
    Except (SolverFault α) (Solution α × Instant α × Instant α) :=
  match answer.outcome with
  | .error fault => .error fault
  | .ok solution =>
      if params.solverBudget < answer.took then .error (.overrun answer.took params.solverBudget)
      else
        match solution.course.instant? 1, solution.course.instant? lookAhead with
        | some next, some ahead => .ok (solution, next, ahead)
        | _, _ => .error (.shortCourse (lookAhead + 1) solution.course.length)

def courseFault (course : Trajectory α) (tracking : Bool) : Option (ResetCause α) :=
  let crashing := (course.leadPosition.zip course.egoPosition).any fun (lead, ego) => lead - ego < -50.0
  let nans := (course.egoSpeed ++ course.egoAccel).any isNaN
  let backwards := course.egoSpeed.any fun speed => speed < -0.01
  if ((backwards || crashing) && tracking) || nans then some (.course backwards crashing nans)
  else none

def resetLogDue (mpc : Mpc σ α) (time : α) : Bool :=
  match mpc.lastResetLog with
  | some last => last + resetLogPeriod < time
  | none => true

def restart [Solver σ α] (mpc : Mpc σ α) (input : MpcInput α) : Mpc σ α :=
  { mpc with
    solver := Solver.restart Weights.standard mpc.solver
    weight := none
    seed := { mpc.seed with egoSpeed := input.ego.speed, egoAccel := 0.0 }
    speed := input.ego.speed
    accel := input.ego.accel
    futureSpeed := input.ego.speed
    track := none
    lastResetLog := if mpc.resetLogDue input.time then some input.time else mpc.lastResetLog }

def settle (mpc : Mpc σ α) :
    Except (SolverFault α) (Solution α × Instant α × Instant α) → Mpc σ α × Option (ResetCause α)
  | .error fault => ({ mpc with course := .none }, some (.solver fault))
  | .ok (solution, next, ahead) =>
      ({ mpc with
         course := solution.course
         speed := next.egoSpeed
         accel := next.egoAccel
         futureSpeed := ahead.egoSpeed },
       courseFault solution.course mpc.hasLead)

def iterationsOf : Except (SolverFault α) (Solution α × Instant α × Instant α) → Nat
  | .error _ => 0
  | .ok (solution, _, _) => solution.iterations

def update [Solver σ α] (mpc : Mpc σ α) (input : MpcInput α) : Mpc σ α × MpcReport α :=
  let followed := followed input
  let lead := followed.map (·.1)
  let leadAccel := (lead.getD (.absent input.ego.speed)).accel
  let mpc := mpc.follow input.ego.speed followed
  let gap := mpc.chooseGap input.ego lead
  let weight := DistanceWeight.select gap input.ego.speed lead
  let mpc := { mpc with gap }.applyWeight weight
  let (answer, solver) := Solver.solve ⟨mpc.seed, leadAccel, mpc.leadDecay, gap⟩ mpc.solver
  let judged := judge mpc.params answer
  let (mpc, reset) := { mpc with solver }.settle judged
  let resetLogged := reset.isSome && mpc.resetLogDue input.time
  let mpc := if reset.isSome then mpc.restart input else mpc
  let iterations := iterationsOf judged
  (mpc,
   { id := mpc.id, lead, newLead := mpc.newLead, hasLead := mpc.hasLead, gap, weight, iterations
     solveTime := answer.took
     reset, resetLogged
     leadAccelEstimate := mpc.history.accelEstimate
     diagnostic :=
       if mpc.params.verbose then some ⟨mpc.id, mpc.course, mpc.leadDecay, iterations⟩ else none })

end Mpc
end Headway
