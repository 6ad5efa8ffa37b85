import Headway.Decimal
import Headway.Proofs.Double.Reading

-- Doubles without a sign. A decimal text that has none is read as one of them, so that it is never the zero below zero,
-- and such a double is taken apart into its exact value.
namespace Headway.Double
open Float.Model UnpackedFloat

def Unsigned : UnpackedFloat → Prop
  | .notANumber => True
  | .infinity s => s = .positive
  | .zero s => s = .positive
  | .finite s _ _ _ => s = .positive

section Operations
variable {a b : UnpackedFloat}

theorem unsigned_rounded (m : ℕ) (e : ℤ) (acc : Accuracy) :
    Unsigned (roundWithAccuracy Format.binary64 .positive m e acc) :=
  roundWithAccuracy_cases Unsigned rfl fun _ => rfl

theorem unsigned_mul (left : Unsigned a) (right : Unsigned b) : Unsigned (UnpackedFloat.mul Format.binary64 a b) := by
  cases a <;> cases b <;> cases left <;> cases right
  all_goals first
    | trivial
    | exact unsigned_rounded _ _ _

theorem unsigned_div (left : Unsigned a) (right : Unsigned b) : Unsigned (UnpackedFloat.div Format.binary64 a b) := by
  cases a <;> cases b <;> cases left <;> cases right
  all_goals first
    | trivial
    | exact unsigned_rounded _ _ _

theorem unsigned_normalized (n : ℕ) (e : ℤ) : Unsigned (UnpackedFloat.normalize Format.binary64 n e .positive) := by
  unfold UnpackedFloat.normalize
  split
  · rename_i below
    have negative := Int.compare_eq_lt.mp below
    omega
  · rfl
  · exact unsigned_rounded _ _ _

theorem unsigned_unpacked {b : BitVec Format.binary64.numBits} (sign : Sign.ofBitVec (unpackSign b) = .positive) :
    Unsigned (UnpackedFloat.unpack Format.binary64 b) := by
  have unpacked := unpack_cases b
  generalize UnpackedFloat.unpack Format.binary64 b = u at unpacked ⊢
  cases unpacked with
  | missing => trivial
  | _ => exact sign

theorem unsigned_packed (unsigned : Unsigned a) : Unsigned (Float.Model.pack a).unpack := by
  cases a with
  | notANumber => trivial
  | infinity s => cases unsigned; rfl
  | zero s => cases unsigned; rfl
  | finite s m e pos =>
    cases unsigned
    by_cases range : e ≤ 971
    · apply unsigned_unpacked
      change Sign.ofBitVec (unpackSign (UnpackedFloat.pack Format.binary64 (.finite .positive m e pos))) = .positive
      rw [pack_exact pos range]
      split
      · exact unpackSign_packComponents
      · exact unpackSign_packComponents
    · change Unsigned (UnpackedFloat.unpack _ (UnpackedFloat.pack Format.binary64 (.finite .positive m e pos)))
      rw [unpack_pack_beyond pos (lt_of_not_ge range)]
      rfl

theorem unsigned_scientific (m : ℕ) (e : ℤ) : Unsigned (UnpackedFloat.ofScientific Format.binary64 m e) :=
  scientific_cases Unsigned rfl rfl unsigned_rounded

end Operations

theorem unsigned_pos {x : Float} (finite : x.isFinite = true) (pos : 0.0 < x) : Unsigned x.toModel.unpack := by
  obtain ⟨m,e,h,same⟩ := positive_exact finite (value_pos finite pos)
  rw [same]
  rfl

theorem ofScientific_unsigned (n : ℕ) (negative : Bool) (exponent : ℕ) :
    Unsigned (Float.ofScientific n negative exponent).toModel.unpack := by
  unfold Float.ofScientific
  split
  · rename_i exactly
    obtain ⟨finite,pos⟩ := power_scales ⟨exponent,Nat.lt_succ_of_le exactly.2⟩
    have whole : Unsigned n.toUInt64.toFloat.toModel.unpack := unsigned_packed (unsigned_normalized n.toUInt64.toNat 0)
    cases negative with
    | true => exact unsigned_packed (unsigned_div whole (unsigned_pos finite pos))
    | false => exact unsigned_packed (unsigned_mul whole (unsigned_pos finite pos))
  · exact unsigned_packed (unsigned_scientific n _)

section Fields
variable (word : UInt64)

theorem sign_field : ((word >>> 63) == 1) = decide (@unpackSign Format.binary64 word.toBitVec = 1#1) := by
  have bit : word.toNat < 2 ^ 64 := word.toNat_lt
  unfold unpackSign
  rw [Bool.eq_iff_iff,decide_eq_true_iff,beq_iff_eq,← UInt64.toNat_inj,BitVec.toNat_eq]
  simp only [UInt64.toNat_shiftRight,BitVec.toNat_cast,BitVec.extractLsb_toNat,Nat.shiftRight_eq_div_pow]
  change word.toNat / 2 ^ 63 = 1 ↔ word.toNat / 2 ^ 63 % 2 = 1
  omega

theorem exponent_field : ((word >>> 52) &&& 0x7FF).toNat = (@unpackExponent Format.binary64 word.toBitVec).toNat := by
  unfold unpackExponent
  simp only [UInt64.toNat_and,UInt64.toNat_shiftRight,BitVec.toNat_cast,BitVec.extractLsb_toNat]
  exact Nat.and_two_pow_sub_one_eq_mod _ 11

theorem mantissa_field : (word &&& 0xFFFFFFFFFFFFF).toNat = (@unpackMantissa Format.binary64 word.toBitVec).toNat := by
  unfold unpackMantissa
  simp only [UInt64.toNat_and,BitVec.toNat_cast,BitVec.extractLsb_toNat]
  exact Nat.and_two_pow_sub_one_eq_mod _ 52

theorem positive_field (positive : Sign.ofBitVec (@unpackSign Format.binary64 word.toBitVec) = .positive) :
    ((word >>> 63) == 1) = false := by
  rw [sign_field,decide_eq_false_iff_not]
  intro set
  rw [set] at positive
  cases positive

end Fields

theorem exact_unsigned {s : Sign} {m : ℕ} {e : ℤ} {pos : 0 < m} (unsigned : Unsigned (.finite s m e pos)) :
    exact (.finite s m e pos) = m * 2 ^ e := by
  cases unsigned
  rfl

theorem parts_exact {x : Float} (finite : x.isFinite = true) (unsigned : Unsigned x.toModel.unpack) :
    ∃ m e narrow, Decimal.Parts.of x = .finite false m e narrow ∧ value x = m * 2 ^ e := by
  have unpacked : Unpacked x.toBits.toBitVec x.toModel.unpack := unpack_cases _
  change x.toModel.unpack.isFinite = true at finite
  unfold Decimal.Parts.of value
  dsimp only
  rw [exponent_field,mantissa_field]
  have sign := positive_field x.toBits
  generalize x.toModel.unpack = u at *
  generalize x.toBits = word at *
  cases unpacked with
  | endless => cases finite
  | missing => cases finite
  | zero least vanished =>
    rw [if_neg (by rw [least]; decide),if_pos least,sign unsigned,vanished]
    refine ⟨0,_,_,rfl,?_⟩
    rw [Nat.cast_zero,zero_mul]
    rfl
  | small least pos =>
    rw [if_neg (by rw [least]; decide),if_pos least,sign unsigned]
    exact ⟨_,_,_,rfl,exact_unsigned unsigned⟩
  | normal above partly pos =>
    rw [if_neg partly,if_neg above,sign unsigned]
    refine ⟨_,_,_,rfl,(exact_unsigned unsigned).trans ?_⟩
    rw [Nat.add_comm]
    rfl

end Headway.Double

namespace Headway.Decimal
open Double

theorem nearestDouble_unsigned (n : ℕ) (exponent : ℤ) : Unsigned (nearestDouble n exponent).toModel.unpack := by
  unfold nearestDouble
  dsimp only
  split
  · rfl
  · split
    · rfl
    · exact ofScientific_unsigned n _ _

end Headway.Decimal
