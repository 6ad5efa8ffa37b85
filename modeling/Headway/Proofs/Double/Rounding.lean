import Mathlib.Algebra.Order.Ring.Int

-- What rounding to a double does to a mantissa and its exponent. The mantissa is cut to the format, rounded, and
-- cut once more, for rounding may have carried it over.
namespace Headway.Double
open Float.Model UnpackedFloat

theorem shiftRight_mantissa (em : ExtendedMantissa) (n : Nat) :
    (em >>> n).mantissa = em.mantissa / 2 ^ n := by
  change (n.repeat ExtendedMantissa.shiftRightOne em).mantissa = _
  induction n with
  | zero => simp [Nat.repeat]
  | succ n ih =>
    change (n.repeat ExtendedMantissa.shiftRightOne em).mantissa / 2 = _
    rw [ih,Nat.div_div_eq_div_mul,← Nat.pow_succ]

theorem roundedMantissa_le (em : ExtendedMantissa) : em.roundedMantissa ≤ em.mantissa + 1 := by
  obtain ⟨m,roundBit,stickyBit⟩ := em
  cases roundBit <;> cases stickyBit
  · exact Nat.le_succ m
  · exact Nat.le_succ m
  · change m + m % 2 ≤ m + 1
    omega
  · exact Nat.le_refl (m + 1)

theorem ofMantissaAndAccuracy_mantissa (m : Nat) (acc : Accuracy) :
    (ExtendedMantissa.ofMantissaAndAccuracy m acc).mantissa = m := by
  rcases acc with _ | (_ | _ | _) <;> rfl

theorem targetExponent_exact (total : ℤ) :
    Format.binary64.targetExponent total = max (total - 53) (-1074) := rfl

-- One shift cuts the mantissa to the format, so that rounding can carry over into one more bit only.
theorem rounded_le {m : Nat} {e : ℤ} (acc : Accuracy)
    (low : e ≤ Format.binary64.targetExponent (totalExponent m e)) :
    (shiftToTargetExponent Format.binary64 m e acc).1.roundedMantissa ≤ 2 ^ 53 := by
  apply (roundedMantissa_le _).trans
  unfold shiftToTargetExponent shiftToExponent
  dsimp only
  rw [shiftRight_mantissa,ofMantissaAndAccuracy_mantissa]
  rw [targetExponent_exact] at low ⊢
  unfold totalExponent at low ⊢
  generalize dropped : (max ((m.log2 : ℤ) + 1 + e - 53) (-1074) - e).toNat = k
  have cut : m.log2 + 1 ≤ k + 53 := by omega
  apply Nat.div_lt_of_lt_mul
  rw [← Nat.pow_add]
  exact Nat.lt_log2_self.trans_le (Nat.pow_le_pow_right (by decide) cut)

theorem shifted_exponent (m : Nat) (e : ℤ) (acc : Accuracy) :
    (shiftToTargetExponent Format.binary64 m e acc).2 = max e (max (totalExponent m e - 53) (-1074)) := by
  change e + ((max (totalExponent m e - 53) (-1074) - e).toNat : ℤ) = _
  omega

def rounded (m : Nat) (e : ℤ) (acc : Accuracy) : ExtendedMantissa × ℤ :=
  shiftToTargetExponent Format.binary64 (shiftToTargetExponent Format.binary64 m e acc).1.roundedMantissa
    (shiftToTargetExponent Format.binary64 m e acc).2 .exact

theorem roundWithAccuracy_cases (property : UnpackedFloat → Prop) {s : Sign} {m : Nat} {e : ℤ} {acc : Accuracy}
    (zero : property (.zero s))
    (finite : ∀ pos, property (.finite s (rounded m e acc).1.mantissa (rounded m e acc).2 pos)) :
    property (roundWithAccuracy Format.binary64 s m e acc) := by
  change property (if vanished : (rounded m e acc).1.mantissa = 0 then _ else _)
  by_cases vanished : (rounded m e acc).1.mantissa = 0
  · rw [dif_pos vanished]
    exact zero
  · rw [dif_neg vanished]
    exact finite _

theorem totalExponent_shiftLeft {m : Nat} (pos : 0 < m) (k : Nat) (e : ℤ) :
    totalExponent (m <<< k) (e - k) = totalExponent m e := by
  have same : (m <<< k).log2 = m.log2 + k := by
    rw [Nat.shiftLeft_eq,Nat.log2_eq_iff (Nat.mul_pos pos (Nat.two_pow_pos k)).ne']
    refine ⟨?_,?_⟩
    · rw [Nat.pow_add]
      exact Nat.mul_le_mul_right _ (Nat.log2_self_le pos.ne')
    · rw [Nat.add_right_comm,Nat.pow_add]
      exact Nat.mul_lt_mul_of_pos_right Nat.lt_log2_self (Nat.two_pow_pos k)
  unfold totalExponent
  rw [same]
  omega

end Headway.Double
