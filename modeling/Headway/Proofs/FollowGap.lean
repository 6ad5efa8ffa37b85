import Headway.Proofs.Exact.Table
import Headway.FollowGap

-- The gap in exact arithmetic. Behind a lead it is a product of positive numbers that rounding and the clamp keep in
-- order, so it follows the tables.
namespace Headway.FollowGap
open Scalar

structure Within (gap : ℝ) : Prop where
  shortest : 0.9 ≤ gap
  longest : gap ≤ 2.7

theorem bySpeed_between (speed : ℝ) : 1.542 ≤ bySpeed.read speed ∧ bySpeed.read speed ≤ 1.9 :=
  Table.read_of_between (by norm_num) speed

theorem crawl_between (speed : ℝ) : 1.542 ≤ crawl.read speed ∧ crawl.read speed ≤ 1.9 :=
  Table.read_of_between
    (List.forall_mem_cons.mpr ⟨by norm_num,List.forall_mem_singleton.mpr (bySpeed_between crawlSpeed)⟩) speed

theorem within_of_curve {gap : ℝ} (curve : 1.542 ≤ gap ∧ gap ≤ 1.9) : Within gap := by
  constructor <;> linarith

-- Rounding to milliseconds moves a gap by half of one at most.
theorem within_of_rounded {gap : ℝ} (curve : 1.542 ≤ gap ∧ gap ≤ 1.9) : Within (roundTo 3 gap) := by
  have moved := abs_le.mp (roundTo_near 3 gap)
  norm_num at moved
  constructor <;> linarith

theorem within_of_clamped (gap : ℝ) : Within (clamp shortest longest gap) := by
  have ordered : (shortest : ℝ) ≤ longest := by
    unfold shortest longest
    norm_num
  obtain ⟨low,high⟩ := clamp_between ordered gap
  exact ⟨low,high⟩

theorem choose_within (speed : ℝ) (lead : Option (LeadGeometry ℝ)) (signalling : Bool) (traffic : ℝ) :
    Within (choose speed lead signalling traffic) := by
  unfold choose
  split
  · exact within_of_rounded (crawl_between speed)
  · cases lead with
    | none => exact within_of_curve (bySpeed_between speed)
    | some lead => exact within_of_clamped _

theorem byClosing_falls : (byClosing : Table ℝ).Inclined (· ≥ ·) := Table.of_inclined (by norm_num)

theorem byLeadAccel_falls : (byLeadAccel : Table ℝ).Inclined (· ≥ ·) := Table.of_inclined (by norm_num)

theorem byClosing_between (closing : ℝ) : -0.163 ≤ byClosing.read closing ∧ byClosing.read closing ≤ 0.504 :=
  Table.read_of_between (by norm_num) closing

theorem byLeadAccel_between (accel : ℝ) : -0.056 ≤ byLeadAccel.read accel ∧ byLeadAccel.read accel ≤ 0.26 :=
  Table.read_of_between (by norm_num) accel

theorem bySignal_between (speed : ℝ) : 0.75 ≤ bySignal.read speed ∧ bySignal.read speed ≤ 1 :=
  Table.read_of_between (by norm_num) speed

section Behind
variable {egoSpeed thin dense : ℝ} {lead other : LeadGeometry ℝ} {signalling later : Bool}

noncomputable def called (egoSpeed : ℝ) (lead : LeadGeometry ℝ) : ℝ :=
  bySpeed.read egoSpeed + byClosing.read (lead.speed - egoSpeed) + byLeadAccel.read lead.accel

noncomputable def signalled (egoSpeed : ℝ) (lead : LeadGeometry ℝ) (signalling : Bool) : ℝ :=
  if signalling then called egoSpeed lead * bySignal.read egoSpeed else called egoSpeed lead

theorem called_pos (egoSpeed : ℝ) (lead : LeadGeometry ℝ) : 0 < called egoSpeed lead := by
  have base := (bySpeed_between egoSpeed).1
  have closing := (byClosing_between (lead.speed - egoSpeed)).1
  have accel := (byLeadAccel_between lead.accel).1
  unfold called
  linarith

theorem called_le (slower : lead.speed ≤ other.speed) (harder : lead.accel ≤ other.accel) :
    called egoSpeed other ≤ called egoSpeed lead :=
  add_le_add (add_le_add_right (Table.read_anti byClosing_falls (sub_le_sub_right slower egoSpeed)) _)
    (Table.read_anti byLeadAccel_falls harder)

theorem signalled_pos (egoSpeed : ℝ) (lead : LeadGeometry ℝ) (signalling : Bool) :
    0 < signalled egoSpeed lead signalling := by
  have positive := called_pos egoSpeed lead
  cases signalling with
  | false => exact positive
  | true => exact mul_pos positive (lt_of_lt_of_le (by norm_num) (bySignal_between egoSpeed).1)

theorem signalled_le (less : called egoSpeed other ≤ called egoSpeed lead) (signalling : Bool) :
    signalled egoSpeed other signalling ≤ signalled egoSpeed lead signalling := by
  cases signalling with
  | false => exact less
  | true => exact mul_le_mul_of_nonneg_right less (le_trans (by norm_num) (bySignal_between egoSpeed).1)

theorem signalled_closer (egoSpeed : ℝ) (lead : LeadGeometry ℝ) :
    signalled egoSpeed lead true ≤ signalled egoSpeed lead false :=
  mul_le_of_le_one_right (called_pos egoSpeed lead).le (bySignal_between egoSpeed).2

theorem choose_crawling (crawling : egoSpeed ≤ crawlSpeed) (lead : Option (LeadGeometry ℝ)) (signalling : Bool)
    (traffic : ℝ) : choose egoSpeed lead signalling traffic = roundTo 3 (crawl.read egoSpeed) := if_pos crawling

theorem choose_moving (moving : crawlSpeed < egoSpeed) (lead : LeadGeometry ℝ) (signalling : Bool) (traffic : ℝ) :
    choose egoSpeed (some lead) signalling traffic =
      clamp shortest longest (roundTo 3 (signalled egoSpeed lead signalling * traffic)) := if_neg (not_le.mpr moving)

-- A gap that comes out negative counts as none, and both are clamped to the shortest.
theorem clamped_le {less more : ℝ} (le : less ≤ max more 0) :
    clamp shortest longest (roundTo 3 less) ≤ clamp shortest longest (roundTo 3 more) := by
  rcases le_max_iff.mp le with le | negative
  · exact clamp_mono (roundTo_mono le)
  · have none : roundTo 3 less ≤ 0 := by
      refine (roundTo_mono negative).trans_eq ?_
      simpa using roundTo_whole 3 0
    have least : clamp shortest longest (roundTo 3 less) = shortest := by
      have ordered : (shortest : ℝ) ≤ longest ∧ (0 : ℝ) ≤ shortest := by norm_num [shortest,longest]
      rw [clamp_exact,max_eq_right (none.trans ordered.2),min_eq_right ordered.1]
    rw [least]
    exact (within_of_clamped _).shortest

theorem choose_le (less : signalled egoSpeed other later ≤ signalled egoSpeed lead signalling) (thinner : thin ≤ dense) :
    choose egoSpeed (some other) later thin ≤ choose egoSpeed (some lead) signalling dense := by
  rcases le_or_gt egoSpeed crawlSpeed with crawling | moving
  · rw [choose_crawling crawling,choose_crawling crawling]
  · rw [choose_moving moving,choose_moving moving]
    apply clamped_le
    have positive := signalled_pos egoSpeed other later
    rcases le_total 0 thin with counted | negative
    · exact le_max_of_le_left (mul_le_mul less thinner counted (positive.le.trans less))
    · exact le_max_of_le_right (mul_nonpos_of_nonneg_of_nonpos positive.le negative)

-- A lead that is slower or brakes harder, or denser traffic, never shortens the gap, and a lane change never widens it.
theorem choose_keeps_back (egoSpeed : ℝ) (lead other : LeadGeometry ℝ) (slower : lead.speed ≤ other.speed)
    (harder : lead.accel ≤ other.accel) {thin dense : ℝ} (thinner : thin ≤ dense) :
    (∀ signalling, choose egoSpeed (some other) signalling thin ≤ choose egoSpeed (some lead) signalling dense) ∧
      ∀ lead traffic, choose egoSpeed lead true traffic ≤ choose egoSpeed lead false traffic := by
  refine ⟨fun signalling => choose_le (signalled_le (called_le slower harder) signalling) thinner,?_⟩
  intro lead traffic
  cases lead with
  | none => exact le_rfl
  | some lead => exact choose_le (signalled_closer egoSpeed lead) le_rfl

theorem choose_keeps_back_braking : (18 : ℝ) ≤ 20 ∧ (-1 : ℝ) ≤ 0 ∧ (1 : ℝ) ≤ 1.2 ∧
    choose (20 : ℝ) (some ⟨50,20,0⟩) true 1 ≤ choose 20 (some ⟨30,18,-1⟩) true 1.2 ∧
    choose (20 : ℝ) (some ⟨30,18,-1⟩) true 1.2 ≤ choose 20 (some ⟨30,18,-1⟩) false 1.2 := by
  have slower : (18 : ℝ) ≤ 20 := by norm_num
  have harder : (-1 : ℝ) ≤ 0 := by norm_num
  have thinner : (1 : ℝ) ≤ 1.2 := by norm_num
  obtain ⟨follows,closes⟩ := choose_keeps_back 20 ⟨30,18,-1⟩ ⟨50,20,0⟩ slower harder thinner
  exact ⟨slower,harder,thinner,follows true,closes _ _⟩

end Behind
end Headway.FollowGap
