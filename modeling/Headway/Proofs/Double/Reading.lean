import Headway.Decimal.Reading
import Headway.Proofs.Double.Arithmetic

-- A decimal text is read as a number. Few digits are taken exactly and scaled by a power of ten that is exact too,
-- all others are rounded once, and what lies beyond every double is an infinity.
namespace Headway.Double
open Float.Model UnpackedFloat

theorem power_scales : ∀ e : Fin 23, Float.exactlyRepresentablePowersOfTen[e].isFinite = true ∧
    0.0 < Float.exactlyRepresentablePowersOfTen[e] := by decide +kernel

theorem toFloat_number (n : UInt64) : n.toFloat.isNaN = false :=
  (show Nearest _ n.toFloat from ⟨_,normalize_rounds n.toNat 0 .positive,rfl⟩).number

theorem scientific_cases (property : UnpackedFloat → Prop) {m : ℕ} {e : ℤ} (zero : property (.zero .positive))
    (endless : property (.infinity .positive))
    (rounded : ∀ m e acc, property (roundWithAccuracy Format.binary64 .positive m e acc)) :
    property (UnpackedFloat.ofScientific Format.binary64 m e) := by
  unfold UnpackedFloat.ofScientific
  by_cases vanished : m = 0
  · rw [dif_pos vanished]
    exact zero
  · rw [dif_neg vanished]
    by_cases large : e > 2 ^ Format.binary64.exponentBits
    · rw [if_pos large]
      exact endless
    · rw [if_neg large]
      by_cases small : e < -(2 ^ Format.binary64.exponentBits + m.log2)
      · rw [if_pos small]
        exact zero
      · rw [if_neg small]
        by_cases whole : 0 ≤ e
        · rw [if_pos whole]
          exact rounded _ _ _
        · rw [if_neg whole]
          exact rounded _ _ _

theorem rounded_scientific_number (m : ℕ) (e : ℤ) :
    (UnpackedFloat.ofScientific Format.binary64 m e).isNaN = false :=
  scientific_cases (·.isNaN = false) rfl rfl fun _ _ _ =>
    roundWithAccuracy_cases (·.isNaN = false) rfl fun _ => rfl

theorem ofScientific_number (n : ℕ) (negative : Bool) (exponent : ℕ) :
    (Float.ofScientific n negative exponent).isNaN = false := by
  unfold Float.ofScientific
  split
  · rename_i exactly
    obtain ⟨finite,pos⟩ := power_scales ⟨exponent,Nat.lt_succ_of_le exactly.2⟩
    have number := toFloat_number n.toUInt64
    cases negative with
    | true => exact div_number number finite pos
    | false =>
      change (n.toUInt64.toFloat * _).isNaN = false
      rw [mul_swap]
      exact scaled_number number finite pos
  · exact packed_number (rounded_scientific_number n _)

end Headway.Double

namespace Headway.Decimal
open Double

theorem nearestDouble_number (n : ℕ) (exponent : ℤ) : (nearestDouble n exponent).isNaN = false := by
  unfold nearestDouble
  dsimp only
  split
  · decide
  · split
    · decide
    · exact ofScientific_number n _ _

theorem nearestOfDigits_number (whole fraction : List Char) (exponent : ℤ) :
    (nearestOfDigits whole fraction exponent).isNaN = false := nearestDouble_number _ _

end Headway.Decimal
