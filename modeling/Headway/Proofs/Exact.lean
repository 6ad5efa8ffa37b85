import Mathlib
import Headway.Proofs.Order

-- The library in exact arithmetic: every rule read at the real numbers, all of which are numbers and finite.
namespace Headway
open Scalar

-- A half is rounded away from zero.
noncomputable instance : Scalar ℝ where
  decideLt := inferInstance
  decideLe := inferInstance
  ofNat := Nat.cast
  abs := abs
  sqrt := Real.sqrt
  exp := Real.exp
  round := fun x => if x < 0 then -⌊-x + 1 / 2⌋ else ⌊x + 1 / 2⌋
  isNaN := fun _ => false
  isFinite := fun _ => true

instance : Ordered ℝ where
  numbers_of_le := fun _ => ⟨rfl,rfl⟩
  le_total := fun _ _ => le_total _ _
  le_trans := le_trans
  lt_exact := lt_iff_le_not_ge

theorem zero_exact : (0.0 : ℝ) = 0 := by norm_num

theorem half_exact : (0.5 : ℝ) = 1 / 2 := by norm_num

theorem lesser_min (x y : ℝ) : lesser x y = min x y := by
  change (if y < x then y else x) = min x y
  rw [min_comm,min_def_lt]

theorem greater_max (x y : ℝ) : greater x y = max x y := by
  change (if x < y then y else x) = max x y
  rw [max_def_lt]

theorem clamp_exact (low high x : ℝ) : clamp low high x = min high (max x low) := by
  unfold clamp
  dsimp only
  rw [min_def_lt,max_def_lt]

theorem clamp_between {low high : ℝ} (ordered : low ≤ high) (x : ℝ) : low ≤ clamp low high x ∧ clamp low high x ≤ high := by
  rw [clamp_exact]
  exact ⟨le_min ordered (le_max_right _ _),min_le_left _ _⟩

theorem clamp_mono {low high x y : ℝ} (le : x ≤ y) : clamp low high x ≤ clamp low high y := by
  rw [clamp_exact,clamp_exact]
  exact min_le_min_left _ (max_le_max_right _ le)

theorem clamp_toward {most : ℝ} (nonneg : 0 ≤ most) (now wanted : ℝ) :
    min now wanted ≤ now + clamp (-most) most (wanted - now) ∧
      now + clamp (-most) most (wanted - now) ≤ max now wanted := by
  rw [clamp_exact]
  rcases le_total now wanted with up | down
  · have change : 0 ≤ wanted - now := sub_nonneg.mpr up
    rw [max_eq_left ((neg_nonpos.mpr nonneg).trans change),min_eq_left up,max_eq_right up]
    constructor
    · linarith [le_min nonneg change]
    · linarith [min_le_right most (wanted - now)]
  · have change : wanted - now ≤ 0 := sub_nonpos.mpr down
    have limited : max (wanted - now) (-most) ≤ 0 := max_le change (neg_nonpos.mpr nonneg)
    rw [min_eq_right (limited.trans nonneg),min_eq_right down,max_eq_left down]
    constructor
    · linarith [le_max_left (wanted - now) (-most)]
    · linarith

theorem powerLoop_exact (rounds : ℕ) (result base : ℝ) (exponent : ℕ) (enough : exponent < 2 ^ rounds) :
    powerLoop rounds result base exponent = result * base ^ exponent := by
  induction rounds generalizing result base exponent with
  | zero =>
    obtain rfl : exponent = 0 := by simpa using enough
    rw [pow_zero,mul_one]
    rfl
  | succ rounds ih =>
    have parity : (if exponent % 2 = 1 then result * base else result) = result * base ^ (exponent % 2) := by
      rcases Nat.mod_two_eq_zero_or_one exponent with even | odd
      · rw [if_neg (by omega),even,pow_zero,mul_one]
      · rw [if_pos odd,odd,pow_one]
    have whole : base ^ exponent = base ^ (exponent % 2) * (base * base) ^ (exponent / 2) := by
      rw [← pow_two,← pow_mul,← pow_add,Nat.mod_add_div]
    unfold powerLoop
    dsimp only
    rw [parity,whole]
    split
    · rename_i last
      rw [last,pow_zero,mul_one]
    · rw [ih _ _ _ (by omega),mul_assoc]

theorem power_exact (base : ℝ) (exponent : ℤ) : power base exponent = base ^ exponent := by
  have one : (1.0 : ℝ) = 1 := by norm_num
  unfold power
  dsimp only
  rw [powerLoop_exact _ _ _ _ Nat.lt_two_pow_self,one,one_mul,one_div]
  split
  · rename_i negative
    rw [← zpow_natCast,← zpow_neg]
    congr 1
    omega
  · rename_i nonneg
    rw [← zpow_natCast]
    congr 1
    omega

theorem round_exact (x : ℝ) : Scalar.round x = if x < 0 then -(⌊-x + 1 / 2⌋ : ℝ) else ⌊x + 1 / 2⌋ := rfl

theorem round_near (x : ℝ) : |Scalar.round x - x| ≤ 1 / 2 := by
  rw [round_exact,abs_le]
  split
  · have above := Int.floor_le (-x + 1 / 2)
    have below := Int.lt_floor_add_one (-x + 1 / 2)
    constructor <;> linarith
  · have above := Int.floor_le (x + 1 / 2)
    have below := Int.lt_floor_add_one (x + 1 / 2)
    constructor <;> linarith

theorem round_mono {x y : ℝ} (le : x ≤ y) : Scalar.round x ≤ Scalar.round y := by
  rw [round_exact,round_exact]
  have floor_nonneg {z : ℝ} (nonneg : 0 ≤ z) : (0 : ℝ) ≤ ⌊z + 1 / 2⌋ :=
    Int.cast_nonneg (Int.floor_nonneg.mpr (by linarith))
  split <;> split
  · exact neg_le_neg (Int.cast_le.mpr (Int.floor_le_floor (by linarith)))
  · rename_i below above
    exact (neg_nonpos.mpr (floor_nonneg (by linarith))).trans (floor_nonneg (not_lt.mp above))
  · rename_i above below
    exact absurd (le.trans_lt below) above
  · exact Int.cast_le.mpr (Int.floor_le_floor (by linarith))

theorem round_whole (whole : ℤ) : Scalar.round (whole : ℝ) = whole := by
  rw [round_exact]
  have floor (whole : ℤ) : ⌊(whole : ℝ) + 1 / 2⌋ = whole := by
    rw [Int.floor_intCast_add]
    norm_num
  split
  · rw [← Int.cast_neg whole,floor,Int.cast_neg,neg_neg]
  · rw [floor]

theorem round_reaches {whole : ℤ} (positive : 0 < whole) (x : ℝ) : (whole : ℝ) ≤ Scalar.round x ↔ whole - 1 / 2 ≤ x := by
  rw [round_exact]
  have least : (1 : ℝ) ≤ whole := by exact_mod_cast positive
  split
  · rename_i negative
    have floor : (0 : ℝ) ≤ ⌊-x + 1 / 2⌋ := Int.cast_nonneg (Int.floor_nonneg.mpr (by linarith))
    constructor <;> intro <;> linarith
  · rw [Int.cast_le,Int.le_floor,sub_le_iff_le_add]

section Decimals
variable {decimals whole : ℤ} {x y : ℝ}

theorem scale_pos (decimals : ℤ) : (0 : ℝ) < 10 ^ decimals := by positivity

theorem roundTo_exact (decimals : ℤ) (x : ℝ) : roundTo decimals x = Scalar.round (x * 10 ^ decimals) / 10 ^ decimals := by
  have ten : (10.0 : ℝ) = 10 := by norm_num
  unfold roundTo
  dsimp only
  rw [power_exact,ten]

theorem roundTo_near (decimals : ℤ) (x : ℝ) : |roundTo decimals x - x| ≤ 1 / 2 / 10 ^ decimals := by
  have scale := scale_pos decimals
  rw [roundTo_exact,le_div_iff₀ scale,← abs_of_pos scale,← abs_mul,abs_of_pos scale,sub_mul,
    div_mul_cancel₀ _ scale.ne']
  exact round_near _

theorem roundTo_mono (le : x ≤ y) : roundTo decimals x ≤ roundTo decimals y := by
  have scale := (scale_pos decimals).le
  rw [roundTo_exact,roundTo_exact]
  exact div_le_div_of_nonneg_right (round_mono (mul_le_mul_of_nonneg_right le scale)) scale

theorem roundTo_whole (decimals whole : ℤ) : roundTo decimals (whole / 10 ^ decimals : ℝ) = whole / 10 ^ decimals := by
  rw [roundTo_exact,div_mul_cancel₀ _ (scale_pos decimals).ne',round_whole]

theorem roundTo_reaches (positive : 0 < whole) :
    whole / 10 ^ decimals ≤ roundTo decimals x ↔ (whole - 1 / 2) / 10 ^ decimals ≤ x := by
  have scale := scale_pos decimals
  rw [roundTo_exact,div_le_div_iff_of_pos_right scale,round_reaches positive,div_le_iff₀ scale]

end Decimals
end Headway
