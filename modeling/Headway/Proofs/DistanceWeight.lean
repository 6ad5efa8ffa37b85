import Headway.Proofs.Exact.Table
import Headway.FollowGap

-- The weight falls with the distance of the lead, and leaves the range of its table at the lower end.
namespace Headway.DistanceWeight
open Scalar

theorem byGap_between (gap : ℝ) : 0.05 ≤ byGap.read gap ∧ byGap.read gap ≤ 1 :=
  Table.read_of_between (by norm_num) gap

theorem byGap_falls : Antitone (byGap : Table ℝ).read := Table.read_anti (Table.of_inclined (by norm_num))

section Scalars
variable {α : Type} [Scalar α]

def Approaches (leadSpeed egoSpeed : α) : Prop := leadSpeed < egoSpeed ∧ 5.0 < egoSpeed

instance (leadSpeed egoSpeed : α) : Decidable (Approaches leadSpeed egoSpeed) := inferInstanceAs (Decidable (_ ∧ _))

def easing (leadSpeed egoSpeed : α) : α :=
  if Approaches leadSpeed egoSpeed then clamp 1.0 2.0 ((leadSpeed - egoSpeed) / 2.0 + 1.5) else 1.0

end Scalars

section Easing
variable {gap egoSpeed leadSpeed : ℝ} {lead : Option (LeadGeometry ℝ)}

-- An approaching lead closes in at some speed, so that the upper end of the clamp is out of reach.
theorem easing_approaching (approaches : Approaches leadSpeed egoSpeed) :
    easing leadSpeed egoSpeed = max 1 ((leadSpeed - egoSpeed) / 2 + 3 / 2) := by
  have closing : (leadSpeed - egoSpeed) / 2 + 3 / 2 < 3 / 2 := by linarith [approaches.1]
  have below : max 1 ((leadSpeed - egoSpeed) / 2 + 3 / 2) ≤ 2 := max_le (by norm_num) (by linarith)
  unfold easing
  rw [if_pos approaches,clamp_exact]
  norm_num
  rw [max_comm,min_eq_right below]

theorem easing_distant (distant : ¬ Approaches leadSpeed egoSpeed) : easing leadSpeed egoSpeed = 1 := by
  unfold easing
  rw [if_neg distant]
  norm_num

theorem easing_between (leadSpeed egoSpeed : ℝ) : 1 ≤ easing leadSpeed egoSpeed ∧ easing leadSpeed egoSpeed < 3 / 2 := by
  by_cases approaches : Approaches leadSpeed egoSpeed
  · rw [easing_approaching approaches]
    exact ⟨le_max_left _ _,max_lt (by norm_num) (by linarith [approaches.1])⟩
  · rw [easing_distant approaches]
    norm_num

noncomputable def unrounded (gap egoSpeed : ℝ) : Option (LeadGeometry ℝ) → ℝ
  | none => byGap.read gap
  | some lead => byGap.read (decidingGap gap egoSpeed lead) / easing lead.speed egoSpeed

theorem select_exact (gap egoSpeed : ℝ) (lead : Option (LeadGeometry ℝ)) :
    select gap egoSpeed lead = roundTo 3 (unrounded gap egoSpeed lead) := by
  cases lead with
  | none => rfl
  | some lead =>
    unfold select unrounded
    dsimp only
    split
    · rename_i approaches
      have closing : easing lead.speed egoSpeed = clamp 1.0 2.0 ((lead.speed - egoSpeed) / 2.0 + 1.5) := if_pos approaches
      rw [closing]
    · rename_i distant
      rw [easing_distant distant,div_one]

theorem unrounded_between (gap egoSpeed : ℝ) (lead : Option (LeadGeometry ℝ)) :
    1 / 30 ≤ unrounded gap egoSpeed lead ∧ unrounded gap egoSpeed lead ≤ 1 := by
  cases lead with
  | none =>
    obtain ⟨least,most⟩ := byGap_between gap
    exact ⟨by unfold unrounded; linarith,most⟩
  | some lead =>
    obtain ⟨least,most⟩ := byGap_between (decidingGap gap egoSpeed lead)
    obtain ⟨divides,below⟩ := easing_between lead.speed egoSpeed
    have positive : 0 < easing lead.speed egoSpeed := one_pos.trans_le divides
    unfold unrounded
    rw [le_div_iff₀ positive,div_le_iff₀ positive]
    constructor <;> linarith

theorem select_reaches {thousandths : ℤ} (positive : 0 < thousandths) :
    thousandths / 10 ^ (3 : ℤ) ≤ select gap egoSpeed lead ↔
      (thousandths - 1 / 2) / 10 ^ (3 : ℤ) ≤ unrounded gap egoSpeed lead := by
  rw [select_exact]
  exact roundTo_reaches positive

theorem unrounded_low_exact (gap egoSpeed : ℝ) (lead : Option (LeadGeometry ℝ)) : unrounded gap egoSpeed lead < 0.0495 ↔
    ∃ near, lead = some near ∧ Approaches near.speed egoSpeed ∧
      byGap.read (decidingGap gap egoSpeed near) < 0.0495 * ((near.speed - egoSpeed) / 2 + 3 / 2) := by
  cases lead with
  | none =>
    have least := (byGap_between gap).1
    apply iff_of_false
    · unfold unrounded
      linarith
    · rintro ⟨_,missing,_⟩
      cases missing
  | some lead =>
    have least := (byGap_between (decidingGap gap egoSpeed lead)).1
    have positive : 0 < easing lead.speed egoSpeed := one_pos.trans_le (easing_between _ _).1
    simp only [Option.some.injEq,exists_eq_left']
    unfold unrounded
    rw [div_lt_iff₀ positive]
    by_cases approaches : Approaches lead.speed egoSpeed
    · rw [easing_approaching approaches,and_iff_right approaches,mul_max_of_nonneg _ _ (by norm_num),lt_max_iff,
        or_iff_right (by linarith)]
    · rw [easing_distant approaches]
      exact iff_of_false (by linarith) fun low => approaches low.1

-- That takes an approaching lead, a gap near the end of the table, and a closing speed below a metre a second.
theorem select_range (gap egoSpeed : ℝ) (lead : Option (LeadGeometry ℝ)) :
    (0.033 ≤ select gap egoSpeed lead ∧ select gap egoSpeed lead ≤ 1) ∧
      (select gap egoSpeed lead < 0.05 ↔ ∃ near, lead = some near ∧ Approaches near.speed egoSpeed ∧
        byGap.read (decidingGap gap egoSpeed near) < 0.0495 * ((near.speed - egoSpeed) / 2 + 3 / 2)) := by
  obtain ⟨least,most⟩ := unrounded_between gap egoSpeed lead
  refine ⟨⟨?_,?_⟩,?_⟩
  · have reached := (select_reaches (by norm_num : (0 : ℤ) < 33)).mpr (le_trans (by norm_num) least)
    norm_num at reached ⊢
    exact reached
  · rw [select_exact]
    refine (roundTo_mono most).trans_eq ?_
    have whole := roundTo_whole 3 1000
    norm_num at whole
    exact whole
  · rw [← unrounded_low_exact]
    have reaches : 0.05 ≤ select gap egoSpeed lead ↔ 0.0495 ≤ unrounded gap egoSpeed lead := by
      have reaches := @select_reaches gap egoSpeed lead 50 (by norm_num)
      norm_num at reaches ⊢
      exact reaches
    rw [← not_le,reaches,not_le]

theorem weight_below_table :
    select 2.7 20 (some ⟨60,19.99,0⟩) = (0.033 : ℝ) ∧ ¬ (0.05 : ℝ) ≤ select 2.7 20 (some ⟨60,19.99,0⟩) := by
  have measured : decidingGap 2.7 20 (⟨60,19.99,0⟩ : LeadGeometry ℝ) = 3 := by
    norm_num [decidingGap,measuredGapThreshold,Scalar.abs]
  have weight : byGap.read (3 : ℝ) = 0.05 := by
    norm_num [byGap,Table.read,Table.of,Table.last,Scalar.isNaN]
  have divides : easing (19.99 : ℝ) 20 = 1.495 := by
    rw [easing_approaching (by norm_num [Approaches])]
    norm_num
  have rounded : select 2.7 20 (some ⟨60,19.99,0⟩) = (0.033 : ℝ) := by
    have nearest : ⌊(0.05 / 1.495 * 10 ^ (3 : ℤ) + 1 / 2 : ℝ)⌋ = 33 := by
      rw [Int.floor_eq_iff]
      norm_num
    rw [select_exact,unrounded,measured,weight,divides,roundTo_exact,round_exact,if_neg (by norm_num),nearest]
    norm_num
  refine ⟨rounded,?_⟩
  rw [rounded]
  norm_num

end Easing

section Distance
variable {gap egoSpeed : ℝ}

-- Inside the window the wanted gap stands in for the measured one, and it lies between what is measured on either side.
theorem window_mono (threshold gap : ℝ) :
    Monotone fun measured : ℝ => if threshold ≤ |measured - gap| then measured else gap := by
  intro near far closer
  dsimp only
  split <;> split
  · exact closer
  · rename_i apart within
    rcases le_abs.mp apart with beyond | before
    · linarith [le_abs_self (far - gap)]
    · linarith [abs_nonneg (far - gap)]
  · rename_i within apart
    rcases le_abs.mp apart with beyond | before
    · linarith [abs_nonneg (near - gap)]
    · linarith [neg_le_abs (near - gap)]
  · exact le_rfl

theorem decidingGap_mono (gap : ℝ) (forward : 0 ≤ egoSpeed) (lead : LeadGeometry ℝ) :
    Monotone fun distance => decidingGap gap egoSpeed { lead with distance } := by
  intro near far closer
  unfold decidingGap
  dsimp only
  split
  · exact le_rfl
  · exact window_mono _ gap (div_le_div_of_nonneg_right closer forward)

theorem select_falls (gap : ℝ) (forward : 0 ≤ egoSpeed) (lead : LeadGeometry ℝ) :
    Antitone fun distance => select gap egoSpeed (some { lead with distance }) := by
  intro near far closer
  dsimp only
  rw [select_exact,select_exact]
  have weight := byGap_falls (decidingGap_mono gap forward lead closer)
  exact roundTo_mono (div_le_div_of_nonneg_right weight (zero_le_one.trans (easing_between lead.speed egoSpeed).1))

theorem select_falls_through_window : (0 : ℝ) ≤ 2 ∧
    select 1.8 2 (some ⟨4.4,2,0⟩) ≤ select (1.8 : ℝ) 2 (some ⟨3.6,2,0⟩) ∧
    select 1.8 2 (some ⟨3.6,2,0⟩) ≤ select (1.8 : ℝ) 2 (some ⟨3,2,0⟩) := by
  have forward : (0 : ℝ) ≤ 2 := by norm_num
  have falls := select_falls 1.8 forward ⟨0,2,0⟩
  exact ⟨forward,falls (by norm_num : (3.6 : ℝ) ≤ 4.4),falls (by norm_num : (3 : ℝ) ≤ 3.6)⟩

end Distance
end Headway.DistanceWeight
