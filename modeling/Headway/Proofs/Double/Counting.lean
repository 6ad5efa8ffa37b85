import Headway.Proofs.Double.Reading

-- Whole numbers as doubles. Beyond the precision they are rounded, and beyond every double they are an infinity, but
-- they never fall behind a double that is not above them.
namespace Headway.Double
open Float.Model UnpackedFloat

theorem widened_rounds {n : ℕ} (pos : 0 < n) :
    Rounds n (roundWithAccuracy Format.binary64 .positive (n <<< 53 * 10 ^ 0) (-53 + 0) .exact) := by
  have low : (-53 : ℤ) ≤ kept (n <<< 53) (-53) := by
    have total : totalExponent (n <<< 53) (-53) = totalExponent n 0 := totalExponent_shiftLeft pos 53 0
    unfold kept
    rw [total]
    unfold totalExponent
    omega
  have same : ((n <<< 53 : ℕ) : ℚ) * 2 ^ (-53 : ℤ) = n := by
    rw [Nat.shiftLeft_eq,Nat.cast_mul,Nat.cast_pow,Nat.cast_ofNat,mul_assoc,← zpow_natCast,← zpow_add₀ two_ne_zero,
      show ((53 : ℕ) : ℤ) + -53 = 0 by decide,zpow_zero,mul_one]
  have rounds := (approximates_exact (n <<< 53) (-53)).rounds low .positive
  rw [same] at rounds
  rw [Nat.pow_zero,Nat.mul_one,Int.add_zero]
  exact rounds

theorem scientific_rounds {n : ℕ} (pos : 0 < n) : Rounds n (UnpackedFloat.ofScientific Format.binary64 n 0) := by
  have near : ¬ (0 : ℤ) < -(2 ^ Format.binary64.exponentBits + n.log2) := by
    change ¬ (0 : ℤ) < -(2 ^ 11 + n.log2)
    omega
  unfold UnpackedFloat.ofScientific
  rw [dif_neg pos.ne',if_neg (by decide),if_neg near,if_pos le_rfl]
  exact widened_rounds pos

theorem large_nearest {n : ℕ} (large : 2 ^ 53 ≤ n) : Nearest n (Float.ofNat n) := by
  refine ⟨_,scientific_rounds (by omega),?_⟩
  change (Float.ofScientific n false 0).toModel.unpack = _
  unfold Float.ofScientific
  rw [dif_neg (by omega)]
  rfl

theorem word_nearest {n : ℕ} (small : n < 2 ^ 53) : Nearest n n.toUInt64.toFloat := by
  have nearest : Nearest ((n.toUInt64.toNat : ℤ) * 2 ^ (0 : ℤ)) n.toUInt64.toFloat :=
    ⟨_,normalize_rounds n.toUInt64.toNat 0 .positive,rfl⟩
  have same : n.toUInt64.toNat = n := Nat.mod_eq_of_lt (by omega)
  rwa [zpow_zero,mul_one,same,Int.cast_natCast] at nearest

theorem full_pos : 0 < 2 ^ 52 := by decide

theorem unit_exact : Float.exactlyRepresentablePowersOfTen[0].isFinite = true ∧
    value Float.exactlyRepresentablePowersOfTen[0] = 1 := by
  have kind : Float.exactlyRepresentablePowersOfTen[0].toModel.unpack = .finite .positive (2 ^ 52) (-52) full_pos := rfl
  refine ⟨congrArg UnpackedFloat.isFinite kind,?_⟩
  unfold value
  rw [kind]
  change ((2 ^ 52 : ℕ) : ℚ) * 2 ^ (-52 : ℤ) = 1
  norm_num

theorem le_times_one {x one : Float} (number : x.isNaN = false) (finite : one.isFinite = true) (unit : value one = 1) :
    x ≤ x * one := by
  rcases number_cases number with finite' | ⟨s,endless⟩
  · apply (nearest_self finite').le (nearest_mul finite' finite)
    rw [unit,mul_one]
  · have endless' := endless.mul finite (unit ▸ one_pos)
    cases s with
    | negative => exact bottom_le endless endless'.number
    | positive => exact le_top number endless'

theorem le_whole {q : ℚ} {x : Float} {n : ℕ} (nearest : Nearest q x) (le : q ≤ n) : x ≤ Float.ofNat n := by
  by_cases large : 2 ^ 53 ≤ n
  · exact nearest.le (large_nearest large) le
  · have read := word_nearest (lt_of_not_ge large)
    change x ≤ Float.ofScientific n false 0
    unfold Float.ofScientific
    rw [dif_pos (by omega)]
    exact Ordered.le_trans (nearest.le read le) (le_times_one read.number unit_exact.1 unit_exact.2)

def binary (j : ℕ) : Float := .ofModel (Float.Model.pack (.finite .positive (2 ^ 52) (j - 52) full_pos))

theorem binary_value (j : ℕ) : exact (.finite .positive (2 ^ 52) (j - 52) full_pos) = 2 ^ j := by
  change ((2 ^ 52 : ℕ) : ℚ) * 2 ^ ((j : ℤ) - 52) = 2 ^ j
  rw [zpow_sub₀ two_ne_zero,zpow_natCast]
  norm_num
  ring

theorem binary_stored (j : ℕ) : Stored (2 ^ 52) (j - 52) := ⟨by decide,by omega,.inl le_rfl⟩

theorem binary_nearest (j : ℕ) : Nearest (2 ^ j) (binary j) := by
  have rounds := rounds_self (u := .finite .positive (2 ^ 52) (j - 52) full_pos) rfl (binary_stored j)
  rw [binary_value] at rounds
  exact ⟨_,rounds,rfl⟩

theorem binary_cases (j : ℕ) :
    ((binary j).isFinite = true ∧ value (binary j) = 2 ^ j) ∨ Endless .positive (binary j) := by
  have canonical : Canonical (.finite .positive (2 ^ 52) (j - 52) full_pos) := binary_stored j
  rcases unpack_pack canonical with same | ⟨s,m,e,pos,finite,beyond,packed⟩
  · exact .inl ⟨congrArg UnpackedFloat.isFinite same,(congrArg exact same).trans (binary_value j)⟩
  · cases finite
    exact .inr packed

theorem reached_by_shares {x share : Float} {n : ℕ} (finite : x.isFinite = true) (finite' : share.isFinite = true)
    (pos : 0.0 < share) (some : 0 < n) (far : 2 * value x ≤ n * value share) : x ≤ Float.ofNat n * share := by
  have below : 2 ^ n.log2 ≤ n := Nat.log2_self_le some.ne'
  have above : (n : ℚ) ≤ 2 ^ n.log2 * 2 := by
    rw [← pow_succ]
    exact_mod_cast Nat.lt_log2_self.le
  have pos' := value_pos finite' pos
  refine Ordered.le_trans ?_ (mul_mono finite' pos (le_whole (binary_nearest n.log2) (by exact_mod_cast below)))
  rcases binary_cases n.log2 with ⟨finite'',exactly⟩ | endless
  · apply (nearest_self finite).le (nearest_mul finite'' finite')
    rw [exactly]
    nlinarith
  · exact le_top (number_of_finite finite) (endless.mul finite' pos')

end Headway.Double
