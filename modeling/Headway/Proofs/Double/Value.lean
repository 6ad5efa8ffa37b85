import Headway.Proofs.Double.Order
import Headway.Proofs.Double.Packing
import Headway.Proofs.Double.Rounding
import Mathlib.Algebra.Order.Field.Power
import Mathlib.Tactic.FieldSimp
import Mathlib.Tactic.Linarith
import Mathlib.Tactic.NormNum
import Mathlib.Tactic.Positivity
import Mathlib.Tactic.Ring

-- The exact value of a double, and what rounding makes of an exact value. Whatever mantissa, exponent and
-- accuracy an operation hands to rounding, the result depends on the exact value alone and is monotone in it.
namespace Headway.Double
open Float.Model UnpackedFloat

-- Where in its unit a number lies that was cut to a mantissa: on it, in the lower half, in the middle, or in the
-- upper half.
def Locates (em : ExtendedMantissa) (x : ℚ) : Prop :=
  match em.roundBit,em.stickyBit with
  | false,false => x = em.mantissa
  | false,true => em.mantissa < x ∧ x < em.mantissa + 1 / 2
  | true,false => x = em.mantissa + 1 / 2
  | true,true => em.mantissa + 1 / 2 < x ∧ x < em.mantissa + 1

theorem locates_exact (m : ℕ) : Locates ⟨m,false,false⟩ m := rfl

theorem Locates.within {em : ExtendedMantissa} {x : ℚ} (locates : Locates em x) :
    em.mantissa ≤ x ∧ x < em.mantissa + 1 := by
  obtain ⟨m,roundBit,stickyBit⟩ := em
  cases roundBit <;> cases stickyBit <;> simp only [Locates] at locates
  · exact ⟨locates.ge,by linarith⟩
  · exact ⟨locates.1.le,by linarith⟩
  · exact ⟨by linarith,by linarith⟩
  · exact ⟨by linarith,locates.2⟩

theorem Locates.half {em : ExtendedMantissa} {x : ℚ} (locates : Locates em x) :
    Locates em.shiftRightOne (x / 2) := by
  obtain ⟨m,roundBit,stickyBit⟩ := em
  obtain ⟨h,rfl | rfl⟩ : ∃ h, m = 2 * h ∨ m = 2 * h + 1 := ⟨m / 2,by omega⟩
  · have cut : (2 * h) / 2 = h := by omega
    have parity : (2 * h % 2 != 0) = false := by simp
    cases roundBit <;> cases stickyBit <;>
      simp only [Locates,ExtendedMantissa.shiftRightOne,cut,parity,Bool.or_false,Bool.or_true] at locates ⊢ <;>
      push_cast at locates
    · linarith
    · constructor <;> linarith
    · constructor <;> linarith
    · constructor <;> linarith
  · have cut : (2 * h + 1) / 2 = h := by omega
    have parity : ((2 * h + 1) % 2 != 0) = true := by simp [Nat.add_mod]
    cases roundBit <;> cases stickyBit <;>
      simp only [Locates,ExtendedMantissa.shiftRightOne,cut,parity,Bool.or_false,Bool.or_true] at locates ⊢ <;>
      push_cast at locates
    · linarith
    · constructor <;> linarith
    · constructor <;> linarith
    · constructor <;> linarith

theorem Locates.shifted {em : ExtendedMantissa} {x : ℚ} (locates : Locates em x) (n : ℕ) :
    Locates (em >>> n) (x / 2 ^ n) := by
  change Locates (n.repeat ExtendedMantissa.shiftRightOne em) _
  induction n with
  | zero => simpa [Nat.repeat] using locates
  | succ n ih =>
    rw [pow_succ,← div_div]
    exact ih.half

theorem Locates.nearest {em : ExtendedMantissa} {x : ℚ} (locates : Locates em x) :
    (em.roundedMantissa = em.mantissa ∧ x ≤ em.mantissa + 1 / 2 ∧
      (x = em.mantissa + 1 / 2 → em.mantissa % 2 = 0)) ∨
    (em.roundedMantissa = em.mantissa + 1 ∧ em.mantissa + 1 / 2 ≤ x ∧
      (x = em.mantissa + 1 / 2 → em.mantissa % 2 = 1)) := by
  obtain ⟨m,roundBit,stickyBit⟩ := em
  cases roundBit <;> cases stickyBit <;> simp only [Locates] at locates
  · exact .inl ⟨rfl,by linarith,fun middle => absurd middle (by linarith)⟩
  · exact .inl ⟨rfl,locates.2.le,fun middle => absurd middle locates.2.ne⟩
  · change (m + m % 2 = m ∧ _) ∨ (m + m % 2 = m + 1 ∧ _)
    rcases Nat.mod_two_eq_zero_or_one m with even | odd
    · exact .inl ⟨by omega,locates.le,fun _ => even⟩
    · exact .inr ⟨by omega,locates.ge,fun _ => odd⟩
  · exact .inr ⟨rfl,locates.1.le,fun middle => absurd middle locates.1.ne'⟩

theorem mantissa_le_rounded (em : ExtendedMantissa) : em.mantissa ≤ em.roundedMantissa := by
  obtain ⟨m,roundBit,stickyBit⟩ := em
  cases roundBit <;> cases stickyBit
  · exact Nat.le_refl m
  · exact Nat.le_refl m
  · exact Nat.le_add_right m (m % 2)
  · exact Nat.le_succ m

theorem Locates.rounded_mono {em en : ExtendedMantissa} {x y : ℚ} (left : Locates em x) (right : Locates en y)
    (le : x ≤ y) : em.roundedMantissa ≤ en.roundedMantissa := by
  have low := left.within.1
  have high := right.within.2
  have order : em.mantissa ≤ en.mantissa := by
    have below : (em.mantissa : ℚ) < (en.mantissa + 1 : ℕ) := by push_cast; linarith
    exact Nat.lt_succ_iff.mp (by exact_mod_cast below)
  rcases Nat.lt_or_eq_of_le order with less | same
  · exact (roundedMantissa_le em).trans (less.trans_le (mantissa_le_rounded en))
  · rcases left.nearest with ⟨down,_,_⟩ | ⟨up,above,odd⟩
    · rw [down,same]
      exact mantissa_le_rounded en
    · rcases right.nearest with ⟨_,below,even⟩ | ⟨up',_,_⟩
      · rw [same] at above odd
        have middle : x = en.mantissa + 1 / 2 := by linarith
        have same' := odd middle
        rw [even (by linarith)] at same'
        cases same'
      · rw [up,up',same]

-- A magnitude that an operation knows by mantissa, exponent, and how it lies above them.
def Approximates (m : ℕ) (e : ℤ) (acc : Accuracy) (q : ℚ) : Prop :=
  Locates (.ofMantissaAndAccuracy m acc) (q / 2 ^ e)

theorem approximates_exact (m : ℕ) (e : ℤ) : Approximates m e .exact (m * 2 ^ e) := by
  change (m * 2 ^ e / 2 ^ e : ℚ) = m
  rw [mul_div_assoc,div_self (by positivity),mul_one]

theorem Approximates.below {m : ℕ} {e : ℤ} {acc : Accuracy} {q : ℚ} (approximates : Approximates m e acc q) :
    q < 2 ^ totalExponent m e := by
  have high := approximates.within.2
  rw [ofMantissaAndAccuracy_mantissa,div_lt_iff₀ (by positivity)] at high
  have bits : (m + 1 : ℚ) ≤ 2 ^ ((m.log2 : ℤ) + 1) := by
    have next : m + 1 ≤ 2 ^ (m.log2 + 1) := Nat.lt_log2_self
    exact_mod_cast next
  calc q < (m + 1) * 2 ^ e := high
    _ ≤ 2 ^ ((m.log2 : ℤ) + 1) * 2 ^ e := by gcongr
    _ = 2 ^ totalExponent m e := (zpow_add₀ two_ne_zero _ _).symm

theorem Approximates.above {m : ℕ} {e : ℤ} {acc : Accuracy} {q : ℚ} (approximates : Approximates m e acc q)
    (pos : 0 < m) : 2 ^ (totalExponent m e - 1) ≤ q := by
  have low := approximates.within.1
  rw [ofMantissaAndAccuracy_mantissa,le_div_iff₀ (by positivity)] at low
  have bits : (2 ^ (m.log2 : ℤ) : ℚ) ≤ m := by exact_mod_cast Nat.log2_self_le pos.ne'
  calc (2 : ℚ) ^ (totalExponent m e - 1) = 2 ^ (m.log2 : ℤ) * 2 ^ e := by
        rw [← zpow_add₀ two_ne_zero]
        unfold totalExponent
        congr 1
        omega
    _ ≤ m * 2 ^ e := by gcongr
    _ ≤ q := low

-- The exponent that is kept of a magnitude, and the mantissa next to it, still to be carried over.
def kept (m : ℕ) (e : ℤ) : ℤ := max (totalExponent m e - 53) (-1074)

def units (m : ℕ) (e : ℤ) (acc : Accuracy) : ℕ :=
  (shiftToTargetExponent Format.binary64 m e acc).1.roundedMantissa

section Magnitudes
variable {m n : ℕ} {e f : ℤ} {acc acc' : Accuracy} {p q : ℚ}

theorem Approximates.cut (approximates : Approximates m e acc q) (low : e ≤ kept m e) :
    Locates (shiftToTargetExponent Format.binary64 m e acc).1 (q / 2 ^ kept m e) := by
  have shifted := Locates.shifted approximates (kept m e - e).toNat
  rw [div_div,← zpow_natCast,← zpow_add₀ two_ne_zero,show e + ((kept m e - e).toNat : ℤ) = kept m e by omega]
    at shifted
  exact shifted

theorem kept_zero (low : e ≤ kept 0 e) : kept 0 e = -1074 := by
  unfold kept totalExponent at *
  simp only [Nat.log2_zero] at *
  omega

theorem kept_mono (left : Approximates m e acc p) (right : Approximates n f acc' q) (low : e ≤ kept m e)
    (le : p ≤ q) : kept m e ≤ kept n f := by
  rcases Nat.eq_zero_or_pos m with rfl | pos
  · rw [kept_zero low]
    exact le_max_right _ _
  · have order : (2 : ℚ) ^ (totalExponent m e - 1) < 2 ^ totalExponent n f :=
      (left.above pos).trans_lt (le.trans_lt right.below)
    have exponents := (zpow_lt_zpow_iff_right₀ one_lt_two).mp order
    unfold kept
    omega

theorem units_le (low : e ≤ kept m e) : units m e acc ≤ 2 ^ 53 := rounded_le acc low

theorem units_full (right : Approximates n f acc q) (low : f ≤ kept n f) (above : -1074 < kept n f) :
    2 ^ 52 ≤ units n f acc := by
  have pos : 0 < n := by
    rcases Nat.eq_zero_or_pos n with rfl | pos
    · rw [kept_zero low] at above
      exact absurd above (lt_irrefl _)
    · exact pos
  have exponent : kept n f = totalExponent n f - 53 := by
    unfold kept at *
    omega
  have full : ((2 ^ 52 : ℕ) : ℚ) ≤ q / 2 ^ kept n f := by
    rw [le_div_iff₀ (by positivity)]
    calc ((2 ^ 52 : ℕ) : ℚ) * 2 ^ kept n f = 2 ^ (52 : ℤ) * 2 ^ kept n f := by norm_num
      _ = 2 ^ (totalExponent n f - 1) := by
          rw [← zpow_add₀ two_ne_zero,exponent]
          congr 1
          omega
      _ ≤ q := right.above pos
  exact Locates.rounded_mono (locates_exact (2 ^ 52)) (right.cut low) full

theorem units_mono (left : Approximates m e acc p) (right : Approximates n f acc' q) (low : e ≤ kept m e)
    (low' : f ≤ kept n f) (le : p ≤ q) :
    (units m e acc : ℚ) * 2 ^ kept m e ≤ units n f acc' * 2 ^ kept n f := by
  rcases (kept_mono left right low le).lt_or_eq with less | same
  · -- The next binade begins where this one ends.
    have full : 2 ^ 52 ≤ units n f acc' := units_full right low' ((le_max_right _ _).trans_lt less)
    have narrow : units m e acc ≤ 2 ^ 53 := units_le low
    calc (units m e acc : ℚ) * 2 ^ kept m e ≤ 2 ^ (53 : ℤ) * 2 ^ kept m e := by
          gcongr
          exact_mod_cast narrow
      _ = 2 ^ (52 : ℤ) * 2 ^ (kept m e + 1) := by
          rw [← zpow_add₀ two_ne_zero,← zpow_add₀ two_ne_zero]
          congr 1
          omega
      _ ≤ units n f acc' * 2 ^ kept n f := by
          gcongr
          · exact_mod_cast full
          · exact one_le_two
          · exact less
  · rw [← same]
    have cut := right.cut low'
    rw [← same] at cut
    have mantissas : units m e acc ≤ units n f acc' := by
      apply Locates.rounded_mono (left.cut low) cut
      gcongr
    gcongr

end Magnitudes

section Carry
variable {m : ℕ} {e : ℤ} {acc : Accuracy} {q : ℚ}

-- A kept mantissa within the format stays as it is. One that was rounded up to the next power of two takes the
-- next exponent.
theorem rounded_cases (acc : Accuracy) (low : e ≤ kept m e) :
    ((rounded m e acc).1.mantissa = units m e acc ∧ (rounded m e acc).2 = kept m e ∧ units m e acc < 2 ^ 53) ∨
      ((rounded m e acc).1.mantissa = 2 ^ 52 ∧ (rounded m e acc).2 = kept m e + 1 ∧ units m e acc = 2 ^ 53) := by
  have least : -1074 ≤ kept m e := le_max_right _ _
  have range : units m e acc ≤ 2 ^ 53 := units_le low
  have exponent : (shiftToTargetExponent Format.binary64 m e acc).2 = kept m e :=
    (shifted_exponent m e acc).trans (max_eq_right low)
  have mantissa : (rounded m e acc).1.mantissa =
      units m e acc / 2 ^ (kept (units m e acc) (kept m e) - kept m e).toNat := by
    unfold rounded
    rw [exponent]
    unfold shiftToTargetExponent shiftToExponent
    dsimp only
    rw [shiftRight_mantissa,ofMantissaAndAccuracy_mantissa]
    rfl
  have next : (rounded m e acc).2 = max (kept m e) (kept (units m e acc) (kept m e)) := by
    unfold rounded
    rw [shifted_exponent,exponent]
    rfl
  rw [mantissa,next]
  rcases Nat.lt_or_eq_of_le range with narrow | full
  · left
    have below : kept (units m e acc) (kept m e) ≤ kept m e := by
      have bits : (units m e acc).log2 < 53 := by
        rcases Nat.eq_zero_or_pos (units m e acc) with vanished | pos
        · rw [vanished]
          decide
        · exact (Nat.log2_lt pos.ne').mpr narrow
      rw [kept,totalExponent]
      omega
    rw [Int.toNat_of_nonpos (Int.sub_nonpos_of_le below),max_eq_left below]
    exact ⟨Nat.div_one _,rfl,narrow⟩
  · right
    have above : kept (2 ^ 53) (kept m e) = kept m e + 1 := by
      rw [kept,totalExponent,Nat.log2_two_pow]
      omega
    rw [full,above,show (kept m e + 1 - kept m e).toNat = 1 by omega]
    exact ⟨by decide,by omega,rfl⟩

theorem rounded_value (low : e ≤ kept m e) :
    ((rounded m e acc).1.mantissa : ℚ) * 2 ^ (rounded m e acc).2 = units m e acc * 2 ^ kept m e := by
  rcases rounded_cases acc low with ⟨mantissa,exponent,_⟩ | ⟨mantissa,exponent,full⟩
  · rw [mantissa,exponent]
  · rw [mantissa,exponent,full,zpow_add_one₀ two_ne_zero]
    norm_num
    ring

theorem rounded_stored (approximates : Approximates m e acc q) (low : e ≤ kept m e) :
    Stored (rounded m e acc).1.mantissa (rounded m e acc).2 := by
  have least : -1074 ≤ kept m e := le_max_right _ _
  rcases rounded_cases acc low with ⟨mantissa,exponent,narrow⟩ | ⟨mantissa,exponent,_⟩
  · rw [mantissa,exponent]
    refine ⟨narrow,least,?_⟩
    rcases least.lt_or_eq with above | same
    · exact .inl (units_full approximates low above)
    · exact .inr same.symm
  · rw [mantissa,exponent]
    exact ⟨by decide,by omega,.inl le_rfl⟩

end Carry

def signed (s : Sign) (q : ℚ) : ℚ :=
  match s with
  | .negative => -q
  | .positive => q

theorem signed_zero (s : Sign) : signed s 0 = 0 := by cases s <;> simp [signed]

def exact : UnpackedFloat → ℚ
  | .finite s m e _ => signed s (m * 2 ^ e)
  | _ => 0

theorem exact_rounded (s : Sign) {m : ℕ} {e : ℤ} (acc : Accuracy) (low : e ≤ kept m e) :
    exact (roundWithAccuracy Format.binary64 s m e acc) = signed s (units m e acc * 2 ^ kept m e) := by
  rw [← rounded_value low]
  change exact (if vanished : (rounded m e acc).1.mantissa = 0 then .zero s else .finite s _ _ _) = _
  by_cases vanished : (rounded m e acc).1.mantissa = 0
  · rw [dif_pos vanished,vanished,Nat.cast_zero,zero_mul,signed_zero]
    rfl
  · rw [dif_neg vanished]
    rfl

-- What rounding makes of a number: a double with the kept mantissa of that number's magnitude.
structure Rounds (q : ℚ) (u : UnpackedFloat) : Prop where
  finite : u.isFinite = true
  canonical : Canonical u
  nearest : ∃ s m e acc p, Approximates m e acc p ∧ e ≤ kept m e ∧ q = signed s p ∧
    exact u = signed s (units m e acc * 2 ^ kept m e)

theorem rounds_zero (s : Sign) : Rounds 0 (.zero s) := by
  refine ⟨rfl,trivial,s,0,-1074,.exact,_,approximates_exact 0 _,by decide,?_,?_⟩
  · rw [Nat.cast_zero,zero_mul,signed_zero]
  · rw [show units 0 (-1074) .exact = 0 by decide,Nat.cast_zero,zero_mul,signed_zero]
    rfl

theorem Approximates.rounds {m : ℕ} {e : ℤ} {acc : Accuracy} {q : ℚ} (approximates : Approximates m e acc q)
    (low : e ≤ kept m e) (s : Sign) :
    Rounds (signed s q) (roundWithAccuracy Format.binary64 s m e acc) := by
  refine ⟨?_,?_,s,m,e,acc,q,approximates,low,rfl,exact_rounded s acc low⟩
  · exact roundWithAccuracy_cases (·.isFinite = true) rfl fun _ => rfl
  · exact roundWithAccuracy_cases Canonical trivial fun _ => rounded_stored approximates low

theorem Stored.kept_self {m : ℕ} {e : ℤ} (stored : Stored m e) (pos : 0 < m) : kept m e = e := by
  have most := (Nat.log2_lt pos.ne').mpr stored.narrow
  have low := stored.low
  unfold kept totalExponent
  rcases stored.full with full | least
  · have bits := (Nat.le_log2 pos.ne').mpr full
    omega
  · omega

theorem Stored.units_self {m : ℕ} {e : ℤ} (stored : Stored m e) (pos : 0 < m) : units m e .exact = m := by
  unfold units shiftToTargetExponent shiftToExponent
  dsimp only
  rw [show Format.binary64.targetExponent (totalExponent m e) = e from stored.kept_self pos,Int.sub_self]
  rfl

theorem rounds_self {u : UnpackedFloat} (finite : u.isFinite = true) (canonical : Canonical u) :
    Rounds (exact u) u := by
  rcases u with _ | _ | s | ⟨s,m,e,pos⟩
  · cases finite
  · cases finite
  · exact rounds_zero s
  · have same := canonical.kept_self pos
    refine ⟨rfl,canonical,s,m,e,.exact,_,approximates_exact m e,same.ge,rfl,?_⟩
    rw [same,canonical.units_self pos]
    rfl

theorem Approximates.nonneg {m : ℕ} {e : ℤ} {acc : Accuracy} {q : ℚ} (approximates : Approximates m e acc q) :
    0 ≤ q := by
  have low := approximates.within.1
  rw [le_div_iff₀ (by positivity)] at low
  exact le_trans (by positivity) low

theorem units_zero {m : ℕ} {e : ℤ} {acc : Accuracy} (approximates : Approximates m e acc 0) (low : e ≤ kept m e) :
    (units m e acc * 2 ^ kept m e : ℚ) = 0 := by
  have none : units 0 (-1074) .exact = 0 := by decide
  have bound := units_mono approximates (approximates_exact 0 (-1074)) low (by decide) (by simp)
  rw [none,Nat.cast_zero,zero_mul] at bound
  exact le_antisymm bound (by positivity)

theorem Rounds.mono {q r : ℚ} {u v : UnpackedFloat} (left : Rounds q u) (right : Rounds r v) (le : q ≤ r) :
    exact u ≤ exact v := by
  obtain ⟨s,m,e,acc,p,first,low,rfl,same⟩ := left.nearest
  obtain ⟨t,n,f,acc',p',second,low',rfl,same'⟩ := right.nearest
  rw [same,same']
  have nonneg := first.nonneg
  have nonneg' := second.nonneg
  cases s <;> cases t <;> simp only [signed] at le ⊢
  · exact neg_le_neg (units_mono second first low' low (neg_le_neg_iff.mp le))
  · exact (neg_nonpos.mpr (by positivity)).trans (by positivity)
  · -- Both numbers are zero.
    obtain rfl : p = 0 := by linarith
    obtain rfl : p' = 0 := by linarith
    rw [units_zero first low,units_zero second low',neg_zero]
  · exact units_mono first second low low' le

section Order
variable {m n : ℕ} {e f : ℤ}

theorem stored_lt (left : Stored m e) (right : Stored n f) (less : e < f) : (m * 2 ^ e : ℚ) < n * 2 ^ f := by
  have low := left.low
  have full : 2 ^ 52 ≤ n := right.full.resolve_right (by omega)
  have narrow := left.narrow
  calc (m * 2 ^ e : ℚ) < 2 ^ (53 : ℤ) * 2 ^ e := by
        gcongr
        exact_mod_cast narrow
    _ = 2 ^ (52 : ℤ) * 2 ^ (e + 1) := by
        rw [← zpow_add₀ two_ne_zero,← zpow_add₀ two_ne_zero]
        congr 1
        omega
    _ ≤ n * 2 ^ f := by
        gcongr
        · exact_mod_cast full
        · exact one_le_two
        · exact less

-- A larger exponent leaves no room for a smaller magnitude.
theorem stored_le (left : Stored m e) (right : Stored n f) :
    (m * 2 ^ e : ℚ) ≤ n * 2 ^ f ↔ e < f ∨ e = f ∧ m ≤ n := by
  rcases lt_trichotomy e f with less | rfl | greater
  · exact iff_of_true (stored_lt left right less).le (.inl less)
  · rw [mul_le_mul_iff_left₀ (by positivity),Nat.cast_le]
    simp
  · exact iff_of_false (stored_lt right left greater).not_ge (by omega)

theorem below_exact {u v : UnpackedFloat} (left : Canonical u) (right : Canonical v) (finite : u.isFinite = true)
    (finite' : v.isFinite = true) : Below u v ↔ exact u ≤ exact v := by
  rcases u with _ | _ | s | ⟨s,m,e,pos⟩
  · cases finite
  · cases finite
  · rcases v with _ | _ | t | ⟨t,n,f,pos'⟩
    · cases finite'
    · cases finite'
    · exact iff_of_true ⟨_,_,rfl,rfl,le_rfl⟩ le_rfl
    · have magnitude : (0 : ℚ) < n * 2 ^ f := by positivity
      cases t
      · refine (below_places rfl rfl).trans (iff_of_false ?_ (neg_lt_zero.mpr magnitude).not_ge)
        simp [Prod.Lex.le_iff]
      · refine (below_places rfl rfl).trans (iff_of_true ?_ magnitude.le)
        simp [Prod.Lex.le_iff]
  · have magnitude : (0 : ℚ) < m * 2 ^ e := by positivity
    rcases v with _ | _ | t | ⟨t,n,f,pos'⟩
    · cases finite'
    · cases finite'
    · cases s
      · refine (below_places rfl rfl).trans (iff_of_true ?_ (neg_nonpos.mpr magnitude.le))
        simp [Prod.Lex.le_iff]
      · refine (below_places rfl rfl).trans (iff_of_false ?_ magnitude.not_ge)
        simp [Prod.Lex.le_iff]
    · have magnitude' : (0 : ℚ) < n * 2 ^ f := by positivity
      cases s <;> cases t
      · refine (below_places rfl rfl).trans ?_
        change _ ↔ -(m * 2 ^ e : ℚ) ≤ -(n * 2 ^ f)
        rw [neg_le_neg_iff,stored_le right left,eq_comm]
        simp [Prod.Lex.le_iff]
      · refine (below_places rfl rfl).trans
          (iff_of_true ?_ ((neg_nonpos.mpr magnitude.le).trans magnitude'.le))
        simp [Prod.Lex.le_iff]
      · refine (below_places rfl rfl).trans
          (iff_of_false ?_ ((neg_lt_zero.mpr magnitude').trans magnitude).not_ge)
        simp [Prod.Lex.le_iff]
      · refine (below_places rfl rfl).trans ?_
        change _ ↔ (m * 2 ^ e : ℚ) ≤ n * 2 ^ f
        rw [stored_le left right]
        simp [Prod.Lex.le_iff]

end Order

end Headway.Double
