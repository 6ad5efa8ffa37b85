import Headway.Proofs.Double.Order
import Headway.Proofs.Planner.Cycle

-- An engaged cycle publishes the slowest proposal that takes part, and a proposal of an instance takes
-- part only with a course that passed every test.
namespace Headway
open Scalar Ordered

def PlanSource.rank : PlanSource → Nat
  | .cruise => 0
  | .mpc1 => 1
  | .mpc2 => 2

section Choice
variable {α : Type} [Scalar α]

-- The winner stands in the line of proposals where whatever is before it is faster and whatever is
-- behind it is not slower.
def Wins (winner : Candidate α) (line : List (Candidate α)) : Prop :=
  ∃ before after, line = before ++ winner :: after ∧
    (∀ c ∈ before, winner.speed < c.speed) ∧ ∀ c ∈ after, ¬ c.speed < winner.speed

theorem Wins.member {winner : Candidate α} {line : List (Candidate α)} (wins : Wins winner line) :
    winner ∈ line := by
  obtain ⟨before,after,rfl,_⟩ := wins
  simp

theorem Wins.front {winner first : Candidate α} {rest : List (Candidate α)}
    (wins : Wins winner (first :: rest)) : winner = first ∨ winner.speed < first.speed := by
  obtain ⟨before,after,line,faster,_⟩ := wins
  cases before with
  | nil => exact .inl (List.cons.inj line).1.symm
  | cons head before => exact .inr ((List.cons.inj line).1 ▸ faster head (by simp))

theorem Wins.tied {winner c : Candidate α} {line : List (Candidate α)} (wins : Wins winner line)
    (ordered : line.Pairwise fun one other => one.source.rank < other.source.rank)
    (member : c ∈ line) (tie : ¬ winner.speed < c.speed) : winner.source.rank ≤ c.source.rank := by
  obtain ⟨before,after,rfl,faster,_⟩ := wins
  rcases List.mem_append.mp member with front | back
  · exact absurd (faster c front) tie
  · rcases List.mem_cons.mp back with rfl | behind
    · exact Nat.le_refl _
    · exact Nat.le_of_lt ((List.pairwise_cons.mp (List.pairwise_append.mp ordered).2.1).1 c behind)

variable [Ordered α]

theorem Wins.slowest {winner c : Candidate α} {line : List (Candidate α)} (wins : Wins winner line)
    (member : c ∈ line) : ¬ c.speed < winner.speed := by
  obtain ⟨before,after,rfl,faster,notSlower⟩ := wins
  rcases List.mem_append.mp member with front | back
  · exact lt_asymm (faster c front)
  · rcases List.mem_cons.mp back with rfl | behind
    · exact lt_irrefl _
    · exact notSlower c behind

-- A contest between the first two leaves the winner of the line the same. Both have to propose numbers:
-- a proposal that is none would lose to neither neighbour and let a slower one behind it go unseen.
theorem Wins.contest {winner best candidate : Candidate α} {rest : List (Candidate α)}
    (bestNumber : isNaN best.speed = false) (candidateNumber : isNaN candidate.speed = false)
    (wins : Wins winner (best.slower candidate :: rest)) : Wins winner (best :: candidate :: rest) := by
  have first := wins.front
  obtain ⟨before,after,line,faster,notSlower⟩ := wins
  by_cases slower : candidate.speed < best.speed
  · have takes : best.slower candidate = candidate := if_pos slower
    rw [takes] at line first
    refine ⟨best :: before,after,by rw [line]; rfl,?_,notSlower⟩
    intro c member
    rcases List.mem_cons.mp member with rfl | old
    · rcases first with rfl | faster
      · exact slower
      · exact lt_trans faster slower
    · exact faster c old
  · have stays : best.slower candidate = best := if_neg slower
    rw [stays] at line
    have bound : best.speed ≤ candidate.speed := le_of_not_lt bestNumber candidateNumber slower
    cases before with
    | nil =>
      obtain ⟨rfl,rfl⟩ := List.cons.inj line
      refine ⟨[],candidate :: rest,rfl,by simp,?_⟩
      intro c member
      rcases List.mem_cons.mp member with rfl | old
      · exact slower
      · exact notSlower c old
    | cons head before =>
      obtain ⟨rfl,rfl⟩ := List.cons.inj line
      refine ⟨best :: candidate :: before,after,rfl,?_,notSlower⟩
      have beaten := faster best (by simp)
      intro c member
      simp only [List.mem_cons] at member
      rcases member with rfl | rfl | old
      · exact beaten
      · exact lt_of_lt_of_le beaten bound
      · exact faster c (by simp [old])

theorem wins_fold (best : Candidate α) (rest : List (Candidate α))
    (numbers : ∀ c ∈ best :: rest, isNaN c.speed = false) :
    Wins (rest.foldl Candidate.slower best) (best :: rest) := by
  induction rest generalizing best with
  | nil => exact ⟨[],[],rfl,by simp,by simp⟩
  | cons candidate rest ih =>
    have bestNumber := numbers best (by simp)
    have candidateNumber := numbers candidate (by simp)
    apply Wins.contest bestNumber candidateNumber
    apply ih
    intro c member
    rcases List.mem_cons.mp member with rfl | old
    · unfold Candidate.slower; split <;> assumption
    · exact numbers c (by simp [old])

end Choice

section Line
variable {σ α : Type}

-- The proposals of a finished cycle: cruise always, an instance while it ends the cycle tracking a lead.
inductive Participates (after : Planner σ α) (plan : Plan α) : Candidate α → Prop where
  | cruise : Participates after plan ⟨.cruise,plan.cruiseSpeed,plan.cruiseAccel⟩
  | mpc1 (tracking : after.mpc1.hasLead = true) :
      Participates after plan ⟨.mpc1,after.mpc1.speed,after.mpc1.accel⟩
  | mpc2 (tracking : after.mpc2.hasLead = true) :
      Participates after plan ⟨.mpc2,after.mpc2.speed,after.mpc2.accel⟩

def line (after : Planner σ α) (plan : Plan α) : List (Candidate α) :=
  ⟨.cruise,plan.cruiseSpeed,plan.cruiseAccel⟩ ::
    ((Planner.candidate? after.mpc1 .mpc1).toList ++ (Planner.candidate? after.mpc2 .mpc2).toList)

theorem mem_candidate? {mpc : Mpc σ α} {source : PlanSource} {c : Candidate α} :
    c ∈ (Planner.candidate? mpc source).toList ↔ mpc.hasLead = true ∧ c = ⟨source,mpc.speed,mpc.accel⟩ := by
  unfold Planner.candidate?
  split
  · rename_i tracking; simp [tracking]
  · rename_i tracking; simp [tracking]

theorem participates_exact {after : Planner σ α} {plan : Plan α} {c : Candidate α} :
    Participates after plan c ↔ c ∈ line after plan := by
  unfold line
  rw [List.mem_cons,List.mem_append,mem_candidate?,mem_candidate?]
  constructor
  · rintro (_ | tracking | tracking)
    · exact .inl rfl
    · exact .inr (.inl ⟨tracking,rfl⟩)
    · exact .inr (.inr ⟨tracking,rfl⟩)
  · rintro (rfl | ⟨tracking,rfl⟩ | ⟨tracking,rfl⟩)
    · exact .cruise
    · exact .mpc1 tracking
    · exact .mpc2 tracking

theorem line_ordered (after : Planner σ α) (plan : Plan α) :
    (line after plan).Pairwise fun one other => one.source.rank < other.source.rank := by
  unfold line Planner.candidate?
  split <;> split <;> simp [PlanSource.rank]

theorem Participates.primary {after : Planner σ α} {plan : Plan α} {c : Candidate α}
    (takesPart : Participates after plan c) (source : c.source = .mpc1) :
    after.mpc1.hasLead = true ∧ c.speed = after.mpc1.speed ∧ c.accel = after.mpc1.accel := by
  cases takesPart with
  | cruise => cases source
  | mpc1 tracking => exact ⟨tracking,rfl,rfl⟩
  | mpc2 => cases source

theorem Participates.secondary {after : Planner σ α} {plan : Plan α} {c : Candidate α}
    (takesPart : Participates after plan c) (source : c.source = .mpc2) :
    after.mpc2.hasLead = true ∧ c.speed = after.mpc2.speed ∧ c.accel = after.mpc2.accel := by
  cases takesPart with
  | cruise => cases source
  | mpc1 => cases source
  | mpc2 tracking => exact ⟨tracking,rfl,rfl⟩

theorem line_alone {after : Planner σ α} {plan : Plan α} {c d : Candidate α}
    (one : Participates after plan c) (other : Participates after plan d) (same : c.source = d.source) :
    c = d := by
  cases one <;> cases other <;> first | rfl | cases same

end Line

section Published
variable {σ : Type}

-- Speeds that may be followed: numbers, and backwards by no more than a course is allowed.
def Followable (speed : Float) : Prop := speed.isNaN = false ∧ ¬ speed < -0.01

theorem followable_of_forward {speed : Float} (bound : 0.0 ≤ speed) : Followable speed := by
  refine ⟨(numbers_of_le bound).2,?_⟩
  intro backwards
  exact not_lt_of_le bound (lt_trans backwards (by decide))

theorem followable_of_backed {mpc : Mpc σ Float} {report : MpcReport Float} {speed accel : Float}
    (backed : mpc.Backed report speed accel) : Followable speed := by
  obtain ⟨next,there,rfl,_⟩ := backed.next
  have member := List.mem_of_getElem? (Trajectory.instant?_exact.mp there).2.1
  exact ⟨backed.sound.numbers _ (List.mem_append_left _ member),backed.sound.forward _ member⟩

variable [Solver σ Float]

theorem cruise_forward (planner : Planner σ Float) (input : PlannerInput Float)
    (engaged : input.control.engaged = true) : 0.0 ≤ (planner.update input).2.1.cruiseSpeed := by
  change 0.0 ≤ (planner.cruiseProfile input _).speed
  rw [Planner.cruiseProfile,if_pos engaged]
  exact le_greater_right (by decide)

structure Arbitrated (after : Planner σ Float) (plan : Plan Float) (report : PlannerReport Float) : Prop where
  number : plan.targetSpeed.isNaN = false
  forward : ¬ plan.targetSpeed < -0.01
  cruise : 0.0 ≤ plan.cruiseSpeed
  takesPart : Participates after plan ⟨plan.source,plan.targetSpeed,plan.targetAccel⟩
  alone : ∀ c, Participates after plan c → c.source = plan.source →
    c = ⟨plan.source,plan.targetSpeed,plan.targetAccel⟩
  slowest : ∀ c, Participates after plan c → ¬ c.speed < plan.targetSpeed
  ties : ∀ c, Participates after plan c → ¬ plan.targetSpeed < c.speed → plan.source.rank ≤ c.source.rank
  primary : plan.source = .mpc1 →
    after.mpc1.Backed report.mpc1 plan.targetSpeed plan.targetAccel
  secondary : plan.source = .mpc2 →
    after.mpc2.Backed report.mpc2 plan.targetSpeed plan.targetAccel

theorem update_publishes_slowest (planner : Planner σ Float) (input : PlannerInput Float)
    (engaged : input.control.engaged = true) :
    Arbitrated (planner.update input).1 (planner.update input).2.1 (planner.update input).2.2 := by
  have chosen := planner.update_chosen input engaged
  have forward := cruise_forward planner input engaged
  have backed (side : Planner.Side) (tracking : ((planner.update input).1.mpc side).hasLead = true) :
      ((planner.update input).1.mpc side).Backed (Planner.reportOf (planner.update input).2.2 side)
        ((planner.update input).1.mpc side).speed ((planner.update input).1.mpc side).accel := by
    rw [Planner.update_mpc] at tracking ⊢
    rw [Planner.update_report]
    exact (planner.seeded input (planner.mpc side)).backed_of_tracking (Planner.inputOf input side) tracking
  have primary := backed .primary
  have secondary := backed .secondary
  generalize planner.update input = cycle at *
  obtain ⟨after,plan,report⟩ := cycle
  have followable : ∀ c, Participates after plan c → Followable c.speed := by
    intro c takesPart
    cases takesPart with
    | cruise => exact followable_of_forward forward
    | mpc1 tracking => exact followable_of_backed (primary tracking)
    | mpc2 tracking => exact followable_of_backed (secondary tracking)
  have wins : Wins ⟨plan.source,plan.targetSpeed,plan.targetAccel⟩ (line after plan) := by
    rw [chosen]
    exact wins_fold _ _ fun c member => (followable c (participates_exact.mpr member)).1
  have takesPart := participates_exact.mpr wins.member
  refine ⟨(followable _ takesPart).1,(followable _ takesPart).2,forward,takesPart,
    fun c other same => line_alone other takesPart same,
    fun c other => wins.slowest (participates_exact.mp other),
    fun c other => wins.tied (line_ordered after plan) (participates_exact.mp other),?_,?_⟩
  · intro source
    obtain ⟨tracking,speed,accel⟩ := takesPart.primary source
    rw [show plan.targetSpeed = _ from speed,show plan.targetAccel = _ from accel]
    exact primary tracking
  · intro source
    obtain ⟨tracking,speed,accel⟩ := takesPart.secondary source
    rw [show plan.targetSpeed = _ from speed,show plan.targetAccel = _ from accel]
    exact secondary tracking

end Published

def behindLead : Planner (Scripted Float) Float :=
  { Planner.scripted [.ok ⟨.ramp 18.0 (-1.5) 25.0,3⟩] [] with recurrence := ⟨20.0,0.0⟩ }

def closingIn : PlannerInput Float :=
  { Planner.openRoad 20.0 with
    radar := ⟨some ⟨true,25.0,18.0,18.0,0.0,0.0,0.0,1.5,0.0⟩,none,[],0.0⟩ }

theorem slowest_behind_lead : closingIn.control.engaged = true ∧
    (behindLead.update closingIn).2.1.source = .mpc1 ∧
    Arbitrated (behindLead.update closingIn).1 (behindLead.update closingIn).2.1
      (behindLead.update closingIn).2.2 :=
  ⟨rfl,by decide +kernel,update_publishes_slowest behindLead closingIn rfl⟩

end Headway
