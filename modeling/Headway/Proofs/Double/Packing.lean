import Mathlib.Algebra.Order.Ring.Int

-- What the format keeps of a double. A result of an operation is packed into 64 bits before it is read again,
-- and one that is rounded already comes back unchanged, unless it is too large for the format.
namespace Headway.Double
open Float.Model UnpackedFloat

structure Stored (m : Nat) (e : ℤ) : Prop where
  narrow : m < 2 ^ 53
  low : -1074 ≤ e
  full : 2 ^ 52 ≤ m ∨ e = -1074

def Canonical : UnpackedFloat → Prop
  | .finite _ m e _ => Stored m e
  | _ => True

theorem leading_bit (mantissa : BitVec 52) : ((1#1 : BitVec 1) ++ mantissa).toNat = 2 ^ 52 + mantissa.toNat := by
  rw [BitVec.toNat_append,← Nat.shiftLeft_add_eq_or_of_lt mantissa.isLt]
  rfl

-- The ways a word is read, told from its fields. The largest exponent of all marks what is not finite, and the least one
-- what has no leading bit.
inductive Unpacked (b : BitVec Format.binary64.numBits) : UnpackedFloat → Prop where
  | endless (full : unpackExponent b = -1#_) : Unpacked b (.infinity (Sign.ofBitVec (unpackSign b)))
  | missing (full : unpackExponent b = -1#_) : Unpacked b .notANumber
  | zero (least : (unpackExponent b).toNat = 0) (vanished : (unpackMantissa b).toNat = 0) :
      Unpacked b (.zero (Sign.ofBitVec (unpackSign b)))
  | small (least : (unpackExponent b).toNat = 0) (pos : 0 < (unpackMantissa b).toNat) :
      Unpacked b (.finite (Sign.ofBitVec (unpackSign b)) (unpackMantissa b).toNat (-1074) pos)
  | normal (above : (unpackExponent b).toNat ≠ 0) (partly : (unpackExponent b).toNat ≠ 2047)
      (pos : 0 < 2 ^ 52 + (unpackMantissa b).toNat) :
      Unpacked b (.finite (Sign.ofBitVec (unpackSign b)) (2 ^ 52 + (unpackMantissa b).toNat)
        ((unpackExponent b).toNat - 1075) pos)

theorem finite_congr {s s' : Sign} {m m' : Nat} {e e' : ℤ} {pos : 0 < m} {pos' : 0 < m'} (sign : s = s')
    (mantissa : m = m') (exponent : e = e') : UnpackedFloat.finite s m e pos = .finite s' m' e' pos' := by
  cases sign
  cases mantissa
  cases exponent
  rfl

theorem unpack_cases (b : BitVec Format.binary64.numBits) : Unpacked b (UnpackedFloat.unpack Format.binary64 b) := by
  unfold UnpackedFloat.unpack
  dsimp only
  by_cases full : unpackExponent b = -1#_
  · rw [if_pos full]
    by_cases endless : unpackMantissa b = 0#_
    · rw [if_pos endless]
      exact .endless full
    · rw [if_neg endless]
      exact .missing full
  · have partly : (unpackExponent b).toNat ≠ 2047 := fun same => full (BitVec.eq_of_toNat_eq same)
    rw [if_neg full]
    by_cases least : unpackExponent b = 0#_
    · have least' : (unpackExponent b).toNat = 0 := congrArg BitVec.toNat least
      rw [if_pos least]
      by_cases vanished : unpackMantissa b = 0#_
      · rw [dif_pos vanished]
        exact .zero least' (congrArg BitVec.toNat vanished)
      · have pos : 0 < (unpackMantissa b).toNat :=
          Nat.pos_of_ne_zero fun none => vanished (BitVec.eq_of_toNat_eq none)
        rw [dif_neg vanished]
        convert Unpacked.small least' pos
        rw [least']
        rfl
    · have above : (unpackExponent b).toNat ≠ 0 := fun same => least (BitVec.eq_of_toNat_eq same)
      rw [if_neg least]
      convert Unpacked.normal above partly (by omega)
      · exact leading_bit (unpackMantissa b)
      · rfl

theorem unpack_canonical (b : BitVec Format.binary64.numBits) :
    Canonical (UnpackedFloat.unpack Format.binary64 b) := by
  have mantissa : (unpackMantissa b).toNat < 2 ^ 52 := (unpackMantissa b).isLt
  have unpacked := unpack_cases b
  generalize UnpackedFloat.unpack Format.binary64 b = u at unpacked ⊢
  cases unpacked with
  | endless => trivial
  | missing => trivial
  | zero => trivial
  | small => exact ⟨by omega,le_rfl,.inr rfl⟩
  | normal => exact ⟨by omega,by omega,.inl (by omega)⟩

theorem unpack_range {b : BitVec Format.binary64.numBits} {s : Sign} {m : Nat} {e : ℤ} {pos : 0 < m}
    (finite : UnpackedFloat.unpack Format.binary64 b = .finite s m e pos) : e ≤ 971 := by
  have top : (unpackExponent b).toNat < 2 ^ 11 := (unpackExponent b).isLt
  have unpacked := unpack_cases b
  rw [finite] at unpacked
  cases unpacked with
  | small => decide
  | normal => omega

theorem unpackSign_packComponents {s : Sign} {e : BitVec 11} {m : BitVec 52} :
    Sign.ofBitVec (unpackSign (packComponents Format.binary64 s e m)) = s := by
  change Sign.ofBitVec ((s.toBitVec ++ e ++ m).extractLsb' 63 1) = s
  rw [BitVec.extractLsb'_append_eq_of_le (by omega),BitVec.extractLsb'_append_eq_of_le (by omega)]
  cases s <;> rfl

theorem pack_exact {s : Sign} {m : Nat} {e : ℤ} (pos : 0 < m) (range : e ≤ 971) :
    UnpackedFloat.pack Format.binary64 (.finite s m e pos) =
      if m.log2 + 1 = 53 then
        packComponents Format.binary64 s (BitVec.ofNat 11 (e + 1023 + 52).toNat) (BitVec.ofNat 52 m)
      else packComponents Format.binary64 s 0#11 (BitVec.ofNat 52 m) := by
  unfold UnpackedFloat.pack
  dsimp only
  rw [if_neg (by
    change ¬ 2048 ≤ (e + 1023 + 52).toNat + 1
    omega)]
  rfl

-- A full mantissa is kept without its leading bit, next to an exponent that is neither the least nor the one
-- that marks what is not finite.
theorem unpack_pack_full {s : Sign} {m : Nat} {e : ℤ} (pos : 0 < m) (stored : Stored m e) (range : e ≤ 971)
    (full : 2 ^ 52 ≤ m) :
    UnpackedFloat.unpack Format.binary64 (UnpackedFloat.pack Format.binary64 (.finite s m e pos)) =
      .finite s m e pos := by
  obtain ⟨narrow,low,_⟩ := stored
  have bits : m.log2 + 1 = 53 := by
    have least := (Nat.le_log2 pos.ne').mpr full
    have most := (Nat.log2_lt pos.ne').mpr narrow
    omega
  have mantissa : ((1#1 : BitVec 1) ++ BitVec.ofNat 52 m).toNat = m := by
    rw [leading_bit,BitVec.toNat_ofNat]
    omega
  have biased : (BitVec.ofNat 11 (e + 1023 + 52).toNat).toNat = (e + 1023 + 52).toNat := by
    rw [BitVec.toNat_ofNat]
    omega
  have apart : ∀ b : BitVec 11, b.toNat ≠ (e + 1023 + 52).toNat → BitVec.ofNat 11 (e + 1023 + 52).toNat ≠ b := by
    intro b other same
    exact other (by rw [← same,biased])
  rw [pack_exact pos range,if_pos bits]
  unfold UnpackedFloat.unpack
  dsimp only
  rw [if_neg (by rw [unpackExponent_packComponents]; exact apart (-1#11) (by change 2047 ≠ _; omega)),
    if_neg (by rw [unpackExponent_packComponents]; exact apart 0#11 (by change 0 ≠ _; omega))]
  apply finite_congr unpackSign_packComponents
  · rw [unpackMantissa_packComponents]
    exact mantissa
  · rw [unpackExponent_packComponents,biased]
    change ((e + 1023 + 52).toNat : ℤ) - (1023 + 52) = e
    omega

theorem unpack_pack_least {s : Sign} {m : Nat} (pos : 0 < m) (partly : m < 2 ^ 52) :
    UnpackedFloat.unpack Format.binary64 (UnpackedFloat.pack Format.binary64 (.finite s m (-1074) pos)) =
      .finite s m (-1074) pos := by
  have bits : m.log2 + 1 ≠ 53 := by
    have most := (Nat.log2_lt pos.ne').mpr partly
    omega
  have mantissa : (BitVec.ofNat 52 m).toNat = m := Nat.mod_eq_of_lt partly
  have nonzero : BitVec.ofNat 52 m ≠ 0#52 := by
    intro same
    rw [← mantissa,same] at pos
    exact Nat.lt_irrefl 0 pos
  rw [pack_exact pos (by decide),if_neg bits]
  unfold UnpackedFloat.unpack
  dsimp only
  rw [if_neg (by rw [unpackExponent_packComponents]; decide),if_pos unpackExponent_packComponents,
    dif_neg (by rw [unpackMantissa_packComponents]; exact nonzero)]
  apply finite_congr unpackSign_packComponents
  · rw [unpackMantissa_packComponents]
    exact mantissa
  · rw [unpackExponent_packComponents]
    rfl

theorem pack_beyond {s : Sign} {m : Nat} {e : Int} (pos : 0 < m) (beyond : 971 < e) :
    UnpackedFloat.pack Format.binary64 (.finite s m e pos) = packedInfinity Format.binary64 s := by
  unfold UnpackedFloat.pack
  dsimp only
  rw [if_pos (by
    change 2048 ≤ (e + 1023 + 52).toNat + 1
    omega)]

theorem unpack_pack_beyond {s : Sign} {m : Nat} {e : ℤ} (pos : 0 < m) (beyond : 971 < e) :
    UnpackedFloat.unpack Format.binary64 (UnpackedFloat.pack Format.binary64 (.finite s m e pos)) =
      .infinity s := by
  rw [pack_beyond pos beyond]
  cases s <;> rfl

-- What is packed comes back, or, of either sign, goes beyond every double there is.
theorem unpack_pack {f : UnpackedFloat} (canonical : Canonical f) :
    (Float.Model.pack f).unpack = f ∨
      ∃ s m e pos, f = .finite s m e pos ∧ 971 < e ∧ (Float.Model.pack f).unpack = .infinity s := by
  cases f with
  | notANumber => exact .inl rfl
  | infinity s => cases s <;> exact .inl rfl
  | zero s => cases s <;> exact .inl rfl
  | finite s m e pos =>
    by_cases range : e ≤ 971
    · by_cases full : 2 ^ 52 ≤ m
      · exact .inl (unpack_pack_full pos canonical range full)
      · cases canonical.full.resolve_left full
        exact .inl (unpack_pack_least pos (Nat.lt_of_not_le full))
    · have beyond := lt_of_not_ge range
      exact .inr ⟨s,m,e,pos,rfl,beyond,unpack_pack_beyond pos beyond⟩

theorem packed_exponent {s : Sign} {m : Nat} {e : ℤ} (pos : 0 < m) (range : e ≤ 971) :
    unpackExponent (UnpackedFloat.pack Format.binary64 (.finite s m e pos)) ≠ -1#11 := by
  rw [pack_exact pos range]
  split
  · rw [unpackExponent_packComponents]
    intro full
    have same : (e + 1023 + 52).toNat % 2 ^ 11 = 2047 := by simpa using congrArg BitVec.toNat full
    omega
  · rw [unpackExponent_packComponents]
    decide

theorem unpack_number {b : BitVec Format.binary64.numBits} (partly : unpackExponent b ≠ -1#_) :
    (UnpackedFloat.unpack Format.binary64 b).isNaN = false := by
  have unpacked := unpack_cases b
  generalize UnpackedFloat.unpack Format.binary64 b = u at unpacked ⊢
  cases unpacked with
  | missing full => exact absurd full partly
  | _ => rfl

theorem packed_number {f : UnpackedFloat} (number : f.isNaN = false) :
    (Float.Model.pack f).unpack.isNaN = false := by
  cases f with
  | notANumber => cases number
  | infinity s => cases s <;> rfl
  | zero s => cases s <;> rfl
  | finite s m e pos =>
    by_cases range : e ≤ 971
    · exact unpack_number (packed_exponent pos range)
    · exact congrArg UnpackedFloat.isNaN (unpack_pack_beyond pos (lt_of_not_ge range))

end Headway.Double
