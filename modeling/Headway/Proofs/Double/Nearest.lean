import Headway.Proofs.Double.Value

-- Every operation on doubles is the exact one, rounded.
namespace Headway.Double
open Float.Model UnpackedFloat

theorem signed_mul (s t : Sign) (p q : ℚ) : signed s p * signed t q = signed (s * t) (p * q) := by
  cases s <;> cases t
  · exact neg_mul_neg p q
  · exact neg_mul p q
  · exact mul_neg p q
  · rfl

theorem apply_cast (s : Sign) (m : ℕ) : ((s.apply m : ℤ) : ℚ) = signed s m := by
  cases s <;> simp [Sign.apply,signed]

theorem decreased_exact {m : ℕ} {e low : ℤ} (bound : low ≤ e) :
    (((decreaseExponent m e low).1 : ℕ) : ℚ) * 2 ^ low = m * 2 ^ e := by
  unfold decreaseExponent
  dsimp only
  rw [Nat.shiftLeft_eq,Nat.cast_mul,Nat.cast_pow,Nat.cast_ofNat,mul_assoc,← zpow_natCast,← zpow_add₀ two_ne_zero,
    show ((e - low).toNat : ℤ) + low = e by omega]

theorem round_rounds {m : ℕ} (pos : 0 < m) (e : ℤ) (s : Sign) :
    Rounds (signed s (m * 2 ^ e)) (UnpackedFloat.round Format.binary64 s m e) := by
  unfold UnpackedFloat.round decreaseExponent
  dsimp only
  have low : e - (e - Format.binary64.targetExponent (totalExponent m e)).toNat ≤
      Format.binary64.targetExponent (totalExponent m e) := by omega
  generalize (e - Format.binary64.targetExponent (totalExponent m e)).toNat = k at low ⊢
  have same := totalExponent_shiftLeft pos k e
  have value : ((m <<< k : ℕ) : ℚ) * 2 ^ (e - k) = m * 2 ^ e := by
    rw [Nat.shiftLeft_eq,Nat.cast_mul,Nat.cast_pow,Nat.cast_ofNat,mul_assoc,← zpow_natCast,← zpow_add₀ two_ne_zero,
      show (k : ℤ) + (e - k) = e by omega]
  rw [← value]
  rw [← same] at low
  exact (approximates_exact _ _).rounds low s

theorem normalize_rounds (m e : ℤ) (s : Sign) :
    Rounds (m * 2 ^ e) (UnpackedFloat.normalize Format.binary64 m e s) := by
  unfold UnpackedFloat.normalize
  split
  · rename_i below
    have negative := Int.compare_eq_lt.mp below
    have value : ((-m).toNat : ℚ) = -m := by exact_mod_cast Int.toNat_of_nonneg (by omega : 0 ≤ -m)
    have rounds := round_rounds (show 0 < (-m).toNat by omega) e .negative
    rw [value] at rounds
    simpa [signed] using rounds
  · rename_i same
    rw [Int.compare_eq_eq.mp same,Int.cast_zero,zero_mul]
    exact rounds_zero s
  · rename_i above
    have positive := Int.compare_eq_gt.mp above
    have value : (m.toNat : ℚ) = m := by exact_mod_cast Int.toNat_of_nonneg (by omega : 0 ≤ m)
    have rounds := round_rounds (show 0 < m.toNat by omega) e .positive
    rw [value] at rounds
    exact rounds

section Operations
variable {a b : UnpackedFloat}

theorem exact_neg (a : UnpackedFloat) : exact a.neg = -exact a := by
  rcases a with _ | _ | _ | ⟨s,m,e,pos⟩
  · exact neg_zero.symm
  · exact neg_zero.symm
  · exact neg_zero.symm
  · cases s
    · exact (neg_neg _).symm
    · rfl

theorem neg_canonical (canonical : Canonical a) : Canonical a.neg := by
  rcases a with _ | _ | _ | _ <;> exact canonical

theorem neg_finite (finite : a.isFinite = true) : a.neg.isFinite = true := by
  rcases a with _ | _ | _ | _ <;> exact finite

theorem add_rounds (left : Canonical a) (right : Canonical b) (finite : a.isFinite = true)
    (finite' : b.isFinite = true) : Rounds (exact a + exact b) (UnpackedFloat.add Format.binary64 a b) := by
  rcases a with _ | _ | s | ⟨s,m,e,pos⟩
  · cases finite
  · cases finite
  · rcases b with _ | _ | t | ⟨t,n,f,pos'⟩
    · cases finite'
    · cases finite'
    · rw [show exact (.zero s) + exact (.zero t) = 0 from add_zero 0]
      cases s <;> cases t <;> exact rounds_zero _
    · rw [show exact (.zero s) = 0 from rfl,zero_add]
      exact rounds_self rfl right
  · rcases b with _ | _ | t | ⟨t,n,f,pos'⟩
    · cases finite'
    · cases finite'
    · rw [show exact (.zero t) = 0 from rfl,add_zero]
      exact rounds_self rfl left
    · have value : exact (.finite s m e pos) + exact (.finite t n f pos') =
          ((s.apply (decreaseExponent m e (min e f)).1 + t.apply (decreaseExponent n f (min e f)).1 : ℤ) : ℚ) *
            2 ^ min e f := by
        have first := decreased_exact (m := m) (min_le_left e f)
        have second := decreased_exact (m := n) (min_le_right e f)
        rw [Int.cast_add,apply_cast,apply_cast,add_mul]
        change signed s (m * 2 ^ e) + signed t (n * 2 ^ f) = _
        cases s <;> cases t <;> simp only [signed,neg_mul,first,second]
      rw [value]
      exact normalize_rounds _ _ _

theorem apply_neg (s : Sign) (m : ℤ) : (-s).apply m = -s.apply m := by
  cases s
  · exact (neg_neg m).symm
  · rfl

theorem sub_eq_add_neg (a b : UnpackedFloat) :
    UnpackedFloat.sub Format.binary64 a b = UnpackedFloat.add Format.binary64 a b.neg := by
  rcases a with s | _ | s | ⟨s,m,e,pos⟩ <;> rcases b with t | _ | t | ⟨t,n,f,pos'⟩ <;> try rfl
  change UnpackedFloat.normalize _ (_ - _) _ _ = UnpackedFloat.normalize _ (_ + (-t).apply _) _ _
  rw [apply_neg]
  rfl

theorem sub_rounds (left : Canonical a) (right : Canonical b) (finite : a.isFinite = true)
    (finite' : b.isFinite = true) : Rounds (exact a - exact b) (UnpackedFloat.sub Format.binary64 a b) := by
  rw [sub_eq_add_neg,show exact a - exact b = exact a + -exact b from by ring,← exact_neg]
  exact add_rounds left (neg_canonical right) finite (neg_finite finite')

theorem product_low {m n : ℕ} {e f : ℤ} (pos : 0 < m) (pos' : 0 < n) (left : Stored m e) (right : Stored n f) :
    e + f ≤ kept (m * n) (e + f) := by
  have bits : m.log2 + n.log2 ≤ (m * n).log2 := by
    rw [Nat.le_log2 (Nat.mul_pos pos pos').ne',Nat.pow_add]
    exact Nat.mul_le_mul (Nat.log2_self_le pos.ne') (Nat.log2_self_le pos'.ne')
  have low := left.low
  have low' := right.low
  unfold kept totalExponent
  rcases left.full with full | least
  · have := (Nat.le_log2 pos.ne').mpr full
    omega
  · rcases right.full with full | least'
    · have := (Nat.le_log2 pos'.ne').mpr full
      omega
    · omega

theorem mul_rounds (left : Canonical a) (right : Canonical b) (finite : a.isFinite = true)
    (finite' : b.isFinite = true) : Rounds (exact a * exact b) (UnpackedFloat.mul Format.binary64 a b) := by
  rcases a with _ | _ | s | ⟨s,m,e,pos⟩
  · cases finite
  · cases finite
  · rw [show exact (.zero s) = 0 from rfl,zero_mul]
    rcases b with _ | _ | t | ⟨t,n,f,pos'⟩
    · cases finite'
    · cases finite'
    · exact rounds_zero _
    · exact rounds_zero _
  · rcases b with _ | _ | t | ⟨t,n,f,pos'⟩
    · cases finite'
    · cases finite'
    · rw [show exact (.zero t) = 0 from rfl,mul_zero]
      exact rounds_zero _
    · have value : exact (.finite s m e pos) * exact (.finite t n f pos') =
          signed (s * t) ((m * n : ℕ) * 2 ^ (e + f)) := by
        change signed s (m * 2 ^ e) * signed t (n * 2 ^ f) = _
        rw [signed_mul,Nat.cast_mul,zpow_add₀ two_ne_zero,mul_mul_mul_comm]
      rw [value]
      exact (approximates_exact _ _).rounds (product_low pos pos' left right) _

theorem divided_locates {m n : ℕ} (pos : 0 < n) :
    Locates (.ofMantissaAndAccuracy (m / n) (accuracyOfFraction (m % n) n)) (m / n) := by
  have parts : (m / n : ℚ) = (m / n : ℕ) + (m % n : ℕ) / n := by
    field_simp
    exact_mod_cast (Nat.div_add_mod m n).symm
  rw [parts]
  have below : m % n < n := Nat.mod_lt m pos
  generalize m % n = rest at below ⊢
  generalize m / n = whole
  have divisor : (0 : ℚ) < n := by exact_mod_cast pos
  have below' : (rest / n : ℚ) < 1 := by
    rw [div_lt_one divisor]
    exact_mod_cast below
  unfold accuracyOfFraction
  split
  · rename_i none
    rw [none]
    change (whole + (0 : ℕ) / n : ℚ) = whole
    simp
  · rename_i some
    have above : (0 : ℚ) < rest / n := by
      have : (0 : ℚ) < rest := by exact_mod_cast Nat.pos_of_ne_zero some
      positivity
    rcases lt_trichotomy (2 * rest) n with less | half | greater
    · rw [compare_lt_iff_lt.mpr less]
      have half : (rest / n : ℚ) < 1 / 2 := by
        rw [div_lt_div_iff₀ divisor two_pos]
        exact_mod_cast (by omega : rest * 2 < 1 * n)
      change (whole : ℚ) < whole + rest / n ∧ (whole + rest / n : ℚ) < whole + 1 / 2
      exact ⟨lt_add_of_pos_right _ above,by gcongr⟩
    · rw [compare_eq_iff_eq.mpr half]
      have half : (rest / n : ℚ) = 1 / 2 := by
        rw [div_eq_div_iff divisor.ne' two_ne_zero]
        exact_mod_cast (by omega : rest * 2 = 1 * n)
      change (whole + rest / n : ℚ) = whole + 1 / 2
      rw [half]
    · rw [compare_gt_iff_gt.mpr greater]
      have half : (1 / 2 : ℚ) < rest / n := by
        rw [div_lt_div_iff₀ two_pos divisor]
        exact_mod_cast (by omega : 1 * n < rest * 2)
      change (whole + 1 / 2 : ℚ) < whole + rest / n ∧ (whole + rest / n : ℚ) < whole + 1
      exact ⟨by gcongr,by gcongr⟩

theorem quotient_low {m n : ℕ} {e f : ℤ} (pos : 0 < m) (pos' : 0 < n) :
    (divCore Format.binary64 m e n f).2.1 ≤
      kept (divCore Format.binary64 m e n f).1 (divCore Format.binary64 m e n f).2.1 := by
  unfold divCore
  dsimp only
  rw [targetExponent_exact]
  generalize target : min (e - f) (max (totalExponent m e - totalExponent n f - 53) (-1074)) = t
  by_cases least : t ≤ -1074
  · exact least.trans (le_max_right _ _)
  · -- Above the least exponent the dividend was widened until the quotient is full.
    have wide : n.log2 + 1 + 52 ≤ m.log2 + (e - f - t).toNat := by
      unfold totalExponent at target
      omega
    have full : 2 ^ 52 ≤ (m <<< (e - f - t).toNat) / n := by
      rw [Nat.le_div_iff_mul_le pos',Nat.shiftLeft_eq]
      calc 2 ^ 52 * n ≤ 2 ^ 52 * 2 ^ (n.log2 + 1) := Nat.mul_le_mul_left _ Nat.lt_log2_self.le
        _ = 2 ^ (n.log2 + 1 + 52) := by rw [← Nat.pow_add,Nat.add_comm]
        _ ≤ 2 ^ (m.log2 + (e - f - t).toNat) := Nat.pow_le_pow_right two_pos wide
        _ = 2 ^ m.log2 * 2 ^ (e - f - t).toNat := Nat.pow_add _ _ _
        _ ≤ m * 2 ^ (e - f - t).toNat := Nat.mul_le_mul_right _ (Nat.log2_self_le pos.ne')
    have bits := (Nat.le_log2 ((Nat.two_pow_pos 52).trans_le full).ne').mpr full
    unfold kept totalExponent
    omega

theorem quotient_approximates {m n : ℕ} {e f : ℤ} (pos' : 0 < n) :
    Approximates (divCore Format.binary64 m e n f).1 (divCore Format.binary64 m e n f).2.1
      (divCore Format.binary64 m e n f).2.2 (m * 2 ^ e / (n * 2 ^ f)) := by
  unfold divCore
  dsimp only
  have room := min_le_left (e - f) (Format.binary64.targetExponent (totalExponent m e - totalExponent n f))
  generalize min (e - f) _ = t at room ⊢
  unfold Approximates
  have value : (m * 2 ^ e / (n * 2 ^ f) / 2 ^ t : ℚ) = (m <<< (e - f - t).toNat : ℕ) / n := by
    rw [Nat.shiftLeft_eq,Nat.cast_mul,Nat.cast_pow,Nat.cast_ofNat,← zpow_natCast,
      show ((e - f - t).toNat : ℤ) = e - f - t by omega,zpow_sub₀ two_ne_zero,zpow_sub₀ two_ne_zero]
    field_simp
  rw [value]
  exact divided_locates pos'

theorem div_rounds (finite : a.isFinite = true) (finite' : b.isFinite = true) (apart : exact b ≠ 0) :
    Rounds (exact a / exact b) (UnpackedFloat.div Format.binary64 a b) := by
  rcases b with _ | _ | t | ⟨t,n,f,pos'⟩
  · cases finite'
  · cases finite'
  · exact absurd rfl apart
  · rcases a with _ | _ | s | ⟨s,m,e,pos⟩
    · cases finite
    · cases finite
    · rw [show exact (.zero s) = 0 from rfl,zero_div]
      exact rounds_zero _
    · have value : exact (.finite s m e pos) / exact (.finite t n f pos') =
          signed (s / t) (m * 2 ^ e / (n * 2 ^ f)) := by
        cases s <;> cases t
        · exact neg_div_neg_eq _ _
        · exact neg_div _ _
        · exact div_neg _
        · rfl
      rw [value]
      exact (quotient_approximates pos').rounds (quotient_low pos pos') _

end Operations

-- The double that a number is rounded to. Beyond the largest it is an infinity.
def Nearest (q : ℚ) (x : Float) : Prop := ∃ u, Rounds q u ∧ x.toModel.unpack = (Float.Model.pack u).unpack

def value (x : Float) : ℚ := exact x.toModel.unpack

theorem below_top {u : UnpackedFloat} (number : u.isNaN = false) : Below u (.infinity .positive) := by
  rcases u with ⟨_ | _⟩ | _ | _ | ⟨_ | _,_,_,_⟩
  all_goals first
    | exact ⟨_,_,rfl,rfl,by simp [Prod.Lex.le_iff]⟩
    | cases number

theorem bottom_below {u : UnpackedFloat} (number : u.isNaN = false) : Below (.infinity .negative) u := by
  rcases u with ⟨_ | _⟩ | _ | _ | ⟨_ | _,_,_,_⟩
  all_goals first
    | exact ⟨_,_,rfl,rfl,by simp [Prod.Lex.le_iff]⟩
    | cases number

theorem top_below {v : UnpackedFloat} (below : Below (.infinity .positive) v) : v = .infinity .positive := by
  obtain ⟨p,q,left,right,le⟩ := below
  cases left
  rcases v with ⟨_ | _⟩ | _ | _ | ⟨_ | _,_,_,_⟩ <;> cases right
  · simp [Prod.Lex.le_iff] at le
  · rfl
  · simp [Prod.Lex.le_iff] at le
  · simp [Prod.Lex.le_iff] at le
  · simp [Prod.Lex.le_iff] at le

theorem below_bottom {u : UnpackedFloat} (below : Below u (.infinity .negative)) : u = .infinity .negative := by
  obtain ⟨p,q,left,right,le⟩ := below
  cases right
  rcases u with ⟨_ | _⟩ | _ | _ | ⟨_ | _,_,_,_⟩ <;> cases left
  · rfl
  · simp [Prod.Lex.le_iff] at le
  · simp [Prod.Lex.le_iff] at le
  · simp [Prod.Lex.le_iff] at le
  · simp [Prod.Lex.le_iff] at le

theorem above_positive {m : ℕ} {e : ℤ} {pos : 0 < m} {v : UnpackedFloat}
    (below : Below (.finite .positive m e pos) v) :
    v = .infinity .positive ∨ ∃ n f pos', v = .finite .positive n f pos' ∧ e ≤ f := by
  obtain ⟨p,q,left,right,le⟩ := below
  cases left
  rcases v with ⟨_ | _⟩ | _ | _ | ⟨_ | _,n,f,pos'⟩ <;> cases right
  · simp [Prod.Lex.le_iff] at le
  · exact .inl rfl
  · simp [Prod.Lex.le_iff] at le
  · simp [Prod.Lex.le_iff] at le
  · simp only [Prod.Lex.le_iff,ofLex_toLex,lt_irrefl,true_and,false_or] at le
    exact .inr ⟨n,f,pos',rfl,by omega⟩

theorem below_negative {m : ℕ} {e : ℤ} {pos : 0 < m} {u : UnpackedFloat}
    (below : Below u (.finite .negative m e pos)) :
    u = .infinity .negative ∨ ∃ n f pos', u = .finite .negative n f pos' ∧ e ≤ f := by
  obtain ⟨p,q,left,right,le⟩ := below
  cases right
  rcases u with ⟨_ | _⟩ | _ | _ | ⟨_ | _,n,f,pos'⟩ <;> cases left
  · exact .inl rfl
  · simp [Prod.Lex.le_iff] at le
  · simp [Prod.Lex.le_iff] at le
  · simp only [Prod.Lex.le_iff,ofLex_toLex,lt_irrefl,true_and,false_or] at le
    exact .inr ⟨n,f,pos',rfl,by omega⟩
  · simp [Prod.Lex.le_iff] at le

theorem packed_below {u v : UnpackedFloat} (left : Canonical u) (right : Canonical v) (below : Below u v) :
    Below (Float.Model.pack u).unpack (Float.Model.pack v).unpack := by
  obtain ⟨p,q,place,place',_⟩ := id below
  have number := number_exact.mpr ⟨p,place⟩
  have number' := number_exact.mpr ⟨q,place'⟩
  rcases unpack_pack left with same | ⟨s,m,e,pos,rfl,beyond,packed⟩
  · rcases unpack_pack right with same' | ⟨t,n,f,pos',rfl,beyond',packed'⟩
    · rw [same,same']
      exact below
    · rw [packed']
      cases t with
      | positive => exact below_top (packed_number number)
      | negative =>
        rcases below_negative below with rfl | ⟨m,e,pos,rfl,larger⟩
        · exact ⟨_,_,rfl,rfl,le_rfl⟩
        · exact absurd (unpack_range same) (by omega)
  · rw [packed]
    cases s with
    | negative => exact bottom_below (packed_number number')
    | positive =>
      rcases above_positive below with rfl | ⟨n,f,pos',rfl,larger⟩
      · exact ⟨_,_,rfl,rfl,le_rfl⟩
      · rcases unpack_pack right with same' | ⟨t,_,_,_,finite,_,packed'⟩
        · exact absurd (unpack_range same') (by omega)
        · cases finite
          rw [packed']
          exact ⟨_,_,rfl,rfl,le_rfl⟩

section Floats
variable {x y z : Float} {q r : ℚ}

theorem Nearest.le (left : Nearest q x) (right : Nearest r y) (le : q ≤ r) : x ≤ y := by
  obtain ⟨u,rounds,packed⟩ := left
  obtain ⟨v,rounds',packed'⟩ := right
  apply le_exact.mpr
  change Below x.toModel.unpack y.toModel.unpack
  rw [packed,packed']
  apply packed_below rounds.canonical rounds'.canonical
  exact (below_exact rounds.canonical rounds'.canonical rounds.finite rounds'.finite).mpr (rounds.mono rounds' le)

theorem Nearest.number (nearest : Nearest q x) : x.isNaN = false :=
  (Ordered.numbers_of_le (nearest.le nearest le_rfl)).1

theorem nearest_self (finite : x.isFinite = true) : Nearest (value x) x := by
  have canonical : Canonical x.toModel.unpack := unpack_canonical _
  refine ⟨x.toModel.unpack,rounds_self finite canonical,?_⟩
  rcases unpack_pack canonical with same | ⟨s,m,e,pos,finite,beyond,packed⟩
  · exact same.symm
  · exact absurd (unpack_range finite) (by omega)

theorem number_of_finite (finite : x.isFinite = true) : x.isNaN = false := (nearest_self finite).number

theorem value_le (finite : x.isFinite = true) (finite' : y.isFinite = true) (le : x ≤ y) : value x ≤ value y :=
  (below_exact (unpack_canonical _) (unpack_canonical _) finite finite').mp (le_exact.mp le)

theorem nearest_add (finite : x.isFinite = true) (finite' : y.isFinite = true) :
    Nearest (value x + value y) (x + y) :=
  ⟨_,add_rounds (unpack_canonical _) (unpack_canonical _) finite finite',rfl⟩

theorem nearest_sub (finite : x.isFinite = true) (finite' : y.isFinite = true) :
    Nearest (value x - value y) (x - y) :=
  ⟨_,sub_rounds (unpack_canonical _) (unpack_canonical _) finite finite',rfl⟩

theorem nearest_mul (finite : x.isFinite = true) (finite' : y.isFinite = true) :
    Nearest (value x * value y) (x * y) :=
  ⟨_,mul_rounds (unpack_canonical _) (unpack_canonical _) finite finite',rfl⟩

theorem nearest_div (finite : x.isFinite = true) (finite' : y.isFinite = true) (apart : value y ≠ 0) :
    Nearest (value x / value y) (x / y) :=
  ⟨_,div_rounds finite finite' apart,rfl⟩

end Floats

end Headway.Double
