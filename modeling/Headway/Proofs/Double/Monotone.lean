import Headway.Proofs.Double.Nearest

-- What the exact operations hand on to the rounded ones: an operation that is monotone in one operand stays so
-- when it is rounded, the infinities included, as long as the other operand is finite.
namespace Headway.Double
open Float.Model UnpackedFloat

def Endless (s : Sign) (x : Float) : Prop := x.toModel.unpack = .infinity s

section Kinds
variable {x y z : Float} {s : Sign}

theorem number_cases (number : x.isNaN = false) : x.isFinite = true ∨ ∃ s, Endless s x := by
  change x.toModel.unpack.isNaN = false at number
  change x.toModel.unpack.isFinite = true ∨ ∃ s, x.toModel.unpack = .infinity s
  cases kind : x.toModel.unpack with
  | notANumber => rw [kind] at number; cases number
  | infinity s => exact .inr ⟨s,rfl⟩
  | zero s => exact .inl rfl
  | finite s m e pos => exact .inl rfl

theorem Endless.number (endless : Endless s x) : x.isNaN = false := by
  change x.toModel.unpack.isNaN = false
  rw [endless]
  rfl

theorem le_top (number : x.isNaN = false) (endless : Endless .positive y) : x ≤ y := by
  apply le_exact.mpr
  change Below x.toModel.unpack y.toModel.unpack
  rw [endless]
  exact below_top number

theorem bottom_le (endless : Endless .negative x) (number : y.isNaN = false) : x ≤ y := by
  apply le_exact.mpr
  change Below x.toModel.unpack y.toModel.unpack
  rw [endless]
  exact bottom_below number

theorem top_of_le (endless : Endless .positive x) (le : x ≤ y) : Endless .positive y := by
  have below : Below x.toModel.unpack y.toModel.unpack := le_exact.mp le
  rw [endless] at below
  exact top_below below

theorem bottom_of_le (endless : Endless .negative y) (le : x ≤ y) : Endless .negative x := by
  have below : Below x.toModel.unpack y.toModel.unpack := le_exact.mp le
  rw [endless] at below
  exact below_bottom below

theorem not_finite (endless : Endless s x) : x.isFinite = false := by
  change x.toModel.unpack.isFinite = false
  rw [endless]
  rfl

theorem not_finite_of_special (special : x.isNaN = true ∨ x.isInf = true) : x.isFinite = false := by
  change x.toModel.unpack.isNaN = true ∨ x.toModel.unpack.isInf = true at special
  change x.toModel.unpack.isFinite = false
  generalize x.toModel.unpack = unpacked at *
  cases unpacked with
  | notANumber => rfl
  | infinity s => rfl
  | zero s => rcases special with missing | endless <;> contradiction
  | finite s m e pos => rcases special with missing | endless <;> contradiction

theorem le_cases (le : x ≤ y) : (x.isFinite = true ∧ y.isFinite = true ∧ value x ≤ value y) ∨
    Endless .negative x ∨ Endless .positive y := by
  obtain ⟨number,number'⟩ := Ordered.numbers_of_le le
  rcases number_cases number with finite | ⟨s,endless⟩
  · rcases number_cases number' with finite' | ⟨t,endless'⟩
    · exact .inl ⟨finite,finite',value_le finite finite' le⟩
    · cases t with
      | negative => exact .inr (.inl (bottom_of_le endless' le))
      | positive => exact .inr (.inr endless')
  · cases s with
    | negative => exact .inr (.inl endless)
    | positive => exact .inr (.inr (top_of_le endless le))

theorem finite_of_between (low : x ≤ y) (high : y ≤ z) (finite : x.isFinite = true) (finite' : z.isFinite = true) :
    y.isFinite = true := by
  rcases number_cases (Ordered.numbers_of_le low).2 with between | ⟨s,endless⟩
  · exact between
  · cases s with
    | negative => rw [not_finite (bottom_of_le endless low)] at finite; cases finite
    | positive => rw [not_finite (top_of_le endless high)] at finite'; cases finite'

end Kinds

section Monotone
variable {f : Float → Float} {g : ℚ → ℚ} {x y : Float}

theorem rounded_number (nearest : ∀ {x : Float}, x.isFinite = true → Nearest (g (value x)) (f x))
    (ends : ∀ {s x}, Endless s x → ∃ t, Endless t (f x)) (number : x.isNaN = false) : (f x).isNaN = false := by
  rcases number_cases number with finite | ⟨s,endless⟩
  · exact (nearest finite).number
  · obtain ⟨t,endless'⟩ := ends endless
    exact endless'.number

-- An operation on finite numbers that is monotone, and what it makes of the infinities.
theorem rounded_mono (nearest : ∀ {x : Float}, x.isFinite = true → Nearest (g (value x)) (f x)) (mono : Monotone g)
    (ends : ∀ {s x}, Endless s x → Endless s (f x)) (le : x ≤ y) : f x ≤ f y := by
  have numbers {x : Float} (number : x.isNaN = false) : (f x).isNaN = false :=
    rounded_number nearest (fun endless => ⟨_,ends endless⟩) number
  obtain ⟨number,number'⟩ := Ordered.numbers_of_le le
  rcases le_cases le with ⟨finite,finite',order⟩ | bottom | top
  · exact (nearest finite).le (nearest finite') (mono order)
  · exact bottom_le (ends bottom) (numbers number')
  · exact le_top (numbers number) (ends top)

theorem rounded_anti (nearest : ∀ {x : Float}, x.isFinite = true → Nearest (g (value x)) (f x)) (anti : Antitone g)
    (ends : ∀ {s x}, Endless s x → Endless (-s) (f x)) (le : x ≤ y) : f y ≤ f x := by
  have numbers {x : Float} (number : x.isNaN = false) : (f x).isNaN = false :=
    rounded_number nearest (fun endless => ⟨_,ends endless⟩) number
  obtain ⟨number,number'⟩ := Ordered.numbers_of_le le
  rcases le_cases le with ⟨finite,finite',order⟩ | bottom | top
  · exact (nearest finite').le (nearest finite) (anti order)
  · exact le_top (numbers number') (ends bottom)
  · exact bottom_le (ends top) (numbers number)

end Monotone

section Endless
variable {a b : UnpackedFloat} {s : Sign}

theorem endless_packed (endless : a = .infinity s) : (Float.Model.pack a).unpack = .infinity s := by
  rw [endless]
  cases s <;> rfl

theorem add_endless (finite : b.isFinite = true) :
    UnpackedFloat.add Format.binary64 (.infinity s) b = .infinity s := by
  cases b with
  | notANumber => cases finite
  | infinity => cases finite
  | zero => rfl
  | finite => rfl

theorem endless_add (finite : b.isFinite = true) :
    UnpackedFloat.add Format.binary64 b (.infinity s) = .infinity s := by
  cases b with
  | notANumber => cases finite
  | infinity => cases finite
  | zero => rfl
  | finite => rfl

theorem positive_exact (finite : b.isFinite = true) (pos : 0 < exact b) :
    ∃ m e h, b = .finite .positive m e h := by
  rcases b with _ | _ | _ | ⟨_ | _,m,e,h⟩
  · cases finite
  · cases finite
  · exact absurd pos (lt_irrefl _)
  · have magnitude : (0 : ℚ) < m * 2 ^ e := by positivity
    exact absurd pos (neg_nonpos.mpr magnitude.le).not_gt
  · exact ⟨m,e,h,rfl⟩

theorem negative_exact (finite : b.isFinite = true) (neg : exact b < 0) :
    ∃ m e h, b = .finite .negative m e h := by
  rcases b with _ | _ | _ | ⟨_ | _,m,e,h⟩
  · cases finite
  · cases finite
  · exact absurd neg (lt_irrefl _)
  · exact ⟨m,e,h,rfl⟩
  · have magnitude : (0 : ℚ) < m * 2 ^ e := by positivity
    exact absurd neg magnitude.le.not_gt

end Endless

section Operations
variable {x y z : Float} {s : Sign}

theorem Endless.add (endless : Endless s x) (finite : z.isFinite = true) : Endless s (x + z) := by
  apply endless_packed
  rw [endless]
  exact add_endless finite

theorem Endless.added (endless : Endless s x) (finite : z.isFinite = true) : Endless s (z + x) := by
  apply endless_packed
  rw [endless]
  exact endless_add finite

theorem Endless.sub (endless : Endless s x) (finite : z.isFinite = true) : Endless s (x - z) := by
  apply endless_packed
  rw [endless,sub_eq_add_neg]
  exact add_endless (neg_finite finite)

theorem Endless.subtracted (endless : Endless s x) (finite : z.isFinite = true) : Endless (-s) (z - x) := by
  apply endless_packed
  rw [endless,sub_eq_add_neg]
  exact endless_add finite

theorem Endless.together (endless : Endless s x) (endless' : Endless s y) : Endless s (x + y) := by
  apply endless_packed
  rw [endless,endless']
  cases s <;> rfl

theorem Endless.opposed (endless : Endless s x) (endless' : Endless (-s) y) : (x + y).isNaN = true := by
  change (Float.Model.pack (UnpackedFloat.add _ x.toModel.unpack y.toModel.unpack)).isNaN = true
  rw [endless,endless']
  cases s <;> decide

theorem Endless.subtracted_from (endless : Endless s x) (number : z.isNaN = false) :
    Endless (-s) (z - x) ∨ (z - x).isNaN = true := by
  rcases number_cases number with finite | ⟨t,endless'⟩
  · exact .inl (endless.subtracted finite)
  · have parts : (z - x).toModel = Float.Model.pack (UnpackedFloat.sub Format.binary64 (.infinity t) (.infinity s)) := by
      rw [← endless,← endless']
      rfl
    change (z - x).toModel.unpack = _ ∨ (z - x).toModel.isNaN = true
    rw [parts]
    cases s <;> cases t
    · exact .inr (by decide)
    · exact .inl rfl
    · exact .inl rfl
    · exact .inr (by decide)

theorem Endless.mul (endless : Endless s x) (finite : z.isFinite = true) (pos : 0 < value z) : Endless s (x * z) := by
  obtain ⟨m,e,h,same⟩ := positive_exact finite pos
  apply endless_packed
  rw [endless,same]
  cases s <;> rfl

theorem Endless.mul_neg (endless : Endless s x) (finite : z.isFinite = true) (neg : value z < 0) :
    Endless (-s) (x * z) := by
  obtain ⟨m,e,h,same⟩ := negative_exact finite neg
  apply endless_packed
  rw [endless,same]
  cases s <;> rfl

theorem Endless.div (endless : Endless s x) (finite : z.isFinite = true) (pos : 0 < value z) : Endless s (x / z) := by
  obtain ⟨m,e,h,same⟩ := positive_exact finite pos
  apply endless_packed
  rw [endless,same]
  cases s <;> rfl

theorem Endless.div_neg (endless : Endless s x) (finite : z.isFinite = true) (neg : value z < 0) :
    Endless (-s) (x / z) := by
  obtain ⟨m,e,h,same⟩ := negative_exact finite neg
  apply endless_packed
  rw [endless,same]
  cases s <;> rfl

theorem value_lt (finite : x.isFinite = true) (finite' : y.isFinite = true) (less : x < y) : value x < value y := by
  apply lt_of_not_ge
  intro back
  exact (Ordered.lt_exact.mp less).2 ((nearest_self finite').le (nearest_self finite) back)

theorem value_pos (finite : z.isFinite = true) (pos : 0.0 < z) : 0 < value z := value_lt (by decide) finite pos

theorem value_neg (finite : z.isFinite = true) (neg : z < 0.0) : value z < 0 := value_lt finite (by decide) neg

theorem add_mono_first (finite : z.isFinite = true) (le : x ≤ y) : x + z ≤ y + z := by
  apply rounded_mono (f := fun x => x + z) (g := fun q => q + value z) _ _ _ le
  · intro x finite'
    exact nearest_add finite' finite
  · intro p q le
    exact add_le_add le le_rfl
  · intro s x endless
    exact endless.add finite

theorem add_mono_second (finite : z.isFinite = true) (le : x ≤ y) : z + x ≤ z + y := by
  apply rounded_mono (f := fun x => z + x) (g := fun q => value z + q) _ _ _ le
  · intro x finite'
    exact nearest_add finite finite'
  · intro p q le
    exact add_le_add le_rfl le
  · intro s x endless
    exact endless.added finite

theorem sub_mono_first (finite : z.isFinite = true) (le : x ≤ y) : x - z ≤ y - z := by
  apply rounded_mono (f := fun x => x - z) (g := fun q => q - value z) _ _ _ le
  · intro x finite'
    exact nearest_sub finite' finite
  · intro p q le
    exact sub_le_sub le le_rfl
  · intro s x endless
    exact endless.sub finite

theorem sub_anti (finite : z.isFinite = true) (le : x ≤ y) : z - y ≤ z - x := by
  apply rounded_anti (f := fun x => z - x) (g := fun q => value z - q) _ _ _ le
  · intro x finite'
    exact nearest_sub finite finite'
  · intro p q le
    exact sub_le_sub le_rfl le
  · intro s x endless
    exact endless.subtracted finite

theorem mul_mono (finite : z.isFinite = true) (pos : 0.0 < z) (le : x ≤ y) : x * z ≤ y * z := by
  have pos := value_pos finite pos
  apply rounded_mono (f := fun x => x * z) (g := fun q => q * value z) _ _ _ le
  · intro x finite'
    exact nearest_mul finite' finite
  · intro p q le
    exact mul_le_mul_of_nonneg_right le pos.le
  · intro s x endless
    exact endless.mul finite pos

theorem mul_anti (finite : z.isFinite = true) (neg : z < 0.0) (le : x ≤ y) : y * z ≤ x * z := by
  have neg := value_neg finite neg
  apply rounded_anti (f := fun x => x * z) (g := fun q => q * value z) _ _ _ le
  · intro x finite'
    exact nearest_mul finite' finite
  · intro p q le
    exact mul_le_mul_of_nonpos_right le neg.le
  · intro s x endless
    exact endless.mul_neg finite neg

theorem div_mono (finite : z.isFinite = true) (pos : 0.0 < z) (le : x ≤ y) : x / z ≤ y / z := by
  have pos := value_pos finite pos
  apply rounded_mono (f := fun x => x / z) (g := fun q => q / value z) _ _ _ le
  · intro x finite'
    exact nearest_div finite' finite pos.ne'
  · intro p q le
    exact div_le_div_of_nonneg_right le pos.le
  · intro s x endless
    exact endless.div finite pos

theorem div_anti (finite : z.isFinite = true) (neg : z < 0.0) (le : x ≤ y) : y / z ≤ x / z := by
  have neg := value_neg finite neg
  apply rounded_anti (f := fun x => x / z) (g := fun q => q / value z) _ _ _ le
  · intro x finite'
    exact nearest_div finite' finite neg.ne
  · intro p q le
    exact div_le_div_of_nonpos_of_le neg.le le
  · intro s x endless
    exact endless.div_neg finite neg

theorem mul_swap (x y : Float) : x * y = y * x := by
  apply congrArg fun product => Float.ofModel (Float.Model.pack product)
  rcases x.toModel.unpack with s | _ | s | ⟨s,m,e,pos⟩ <;> rcases y.toModel.unpack with t | _ | t | ⟨t,n,f,pos'⟩ <;>
    try rfl
  all_goals
    have signs : s * t = t * s := by cases s <;> cases t <;> rfl
  · exact congrArg _ signs
  · exact congrArg _ signs
  · exact congrArg _ signs
  · exact congrArg _ signs
  · exact congrArg _ signs
  · exact congrArg _ signs
  · change roundWithAccuracy _ (s * t) (m * n) (e + f) _ = roundWithAccuracy _ (t * s) (n * m) (f + e) _
    rw [signs,Nat.mul_comm,Int.add_comm]

theorem nearest_zero (nearest : Nearest 0 x) : x ≤ 0.0 ∧ 0.0 ≤ x := by
  have zero : Nearest (value 0.0) 0.0 := nearest_self (by decide)
  exact ⟨nearest.le zero le_rfl,zero.le nearest le_rfl⟩

theorem zero_times (finite : z.isFinite = true) : 0.0 * z ≤ 0.0 ∧ 0.0 ≤ 0.0 * z := by
  apply nearest_zero
  have nearest := nearest_mul (x := 0.0) (by decide) finite
  rwa [show value 0.0 = 0 from rfl,zero_mul] at nearest

theorem same_sub (finite : x.isFinite = true) : x - x ≤ 0.0 ∧ 0.0 ≤ x - x := by
  apply nearest_zero
  have nearest := nearest_sub finite finite
  rwa [sub_self] at nearest

theorem zero_over (finite : z.isFinite = true) (apart : value z ≠ 0) : 0.0 / z ≤ 0.0 ∧ 0.0 ≤ 0.0 / z := by
  apply nearest_zero
  have nearest := nearest_div (x := 0.0) (by decide) finite apart
  rwa [show value 0.0 = 0 from rfl,zero_div] at nearest

theorem times_nonpos (finite : z.isFinite = true) (neg : z < 0.0) (nonneg : 0.0 ≤ x) : x * z ≤ 0.0 :=
  Ordered.le_trans (mul_anti finite neg nonneg) (zero_times finite).1

theorem difference_nonneg (finite : x.isFinite = true) (le : x ≤ y) : 0.0 ≤ y - x :=
  Ordered.le_trans (same_sub finite).2 (sub_mono_first finite le)

theorem le_add (left : 0.0 ≤ x) (right : 0.0 ≤ y) : x ≤ x + y := by
  rcases number_cases (Ordered.numbers_of_le left).2 with finite | ⟨s,endless⟩
  · have same : x ≤ x + 0.0 := by
      apply (nearest_self finite).le (nearest_add finite (by decide))
      rw [show value 0.0 = 0 from rfl,add_zero]
    exact Ordered.le_trans same (add_mono_second finite right)
  · cases s with
    | negative => exact absurd (not_finite (bottom_of_le endless left)) (by decide)
    | positive =>
      have top : Endless .positive (x + y) := by
        rcases number_cases (Ordered.numbers_of_le right).2 with finite | ⟨t,endless'⟩
        · exact endless.add finite
        · cases t with
          | negative => exact absurd (not_finite (bottom_of_le endless' right)) (by decide)
          | positive => exact endless.together endless'
      exact le_top endless.number top

theorem unpack_neg (x : Float) : (-x).toModel.unpack = x.toModel.unpack.neg := by
  have canonical : Canonical x.toModel.unpack := unpack_canonical _
  rcases unpack_pack (neg_canonical canonical) with same | ⟨s,m,e,pos,finite,beyond,_⟩
  · exact same
  · have range : ∀ {s m e pos}, x.toModel.unpack = .finite s m e pos → e ≤ 971 := fun finite => unpack_range finite
    cases kind : x.toModel.unpack with
    | finite => rw [kind] at finite; cases finite; exact absurd (range kind) (by omega)
    | _ => rw [kind] at finite; cases finite

theorem value_negated (x : Float) : value (-x) = -value x := by
  unfold value
  rw [unpack_neg]
  exact exact_neg _

theorem negated_finite (finite : x.isFinite = true) : (-x).isFinite = true := by
  change (-x).toModel.unpack.isFinite = true
  rw [unpack_neg]
  exact neg_finite finite

theorem negated_number (number : x.isNaN = false) : (-x).isNaN = false := by
  change (-x).toModel.unpack.isNaN = false
  rw [unpack_neg]
  change x.toModel.unpack.isNaN = false at number
  revert number
  cases x.toModel.unpack <;> exact id

theorem negated_le (le : x ≤ y) : -y ≤ -x := by
  apply rounded_anti (f := fun x => -x) (g := fun q => -q) _ _ _ le
  · intro x finite
    rw [← value_negated]
    exact nearest_self (negated_finite finite)
  · intro p q le
    exact neg_le_neg le
  · intro s x endless
    exact (unpack_neg x).trans (congrArg UnpackedFloat.neg endless)

theorem lt_of_value (finite : x.isFinite = true) (finite' : y.isFinite = true) (less : value x < value y) : x < y := by
  apply Ordered.lt_exact.mpr
  refine ⟨(nearest_self finite).le (nearest_self finite') less.le,?_⟩
  intro back
  exact (value_le finite' finite back).not_gt less

theorem negated_pos (finite : x.isFinite = true) (neg : x < 0.0) : 0.0 < -x := by
  apply lt_of_value (by decide) (negated_finite finite)
  rw [value_negated]
  exact neg_pos.mpr (value_neg finite neg)

theorem negated_neg (finite : x.isFinite = true) (pos : 0.0 < x) : -x < 0.0 := by
  apply lt_of_value (negated_finite finite) (by decide)
  rw [value_negated]
  exact neg_lt_zero.mpr (value_pos finite pos)

def extreme (s : Sign) : Float := .ofModel (Float.Model.pack (.finite s (2 ^ 53 - 1) 971 (by decide)))

theorem extreme_exact (s : Sign) : (extreme s).toModel.unpack = .finite s (2 ^ 53 - 1) 971 (by decide) :=
  unpack_pack_full _ ⟨by decide,by decide,.inl (by decide)⟩ le_rfl (by decide)

theorem within_extremes (finite : x.isFinite = true) : extreme .negative ≤ x ∧ x ≤ extreme .positive := by
  have canonical : Canonical x.toModel.unpack := unpack_canonical _
  have finite : x.toModel.unpack.isFinite = true := finite
  suffices Below (extreme .negative).toModel.unpack x.toModel.unpack ∧
      Below x.toModel.unpack (extreme .positive).toModel.unpack from ⟨le_exact.mpr this.1,le_exact.mpr this.2⟩
  rw [extreme_exact,extreme_exact]
  cases kind : x.toModel.unpack with
  | notANumber => rw [kind] at finite; cases finite
  | infinity s => rw [kind] at finite; cases finite
  | zero s =>
    rw [below_places rfl rfl,below_places rfl rfl]
    simp [Prod.Lex.le_iff]
  | finite s m e pos =>
    rw [kind] at canonical
    have range := unpack_range kind
    have narrow := canonical.narrow
    cases s
    · rw [below_places rfl rfl,below_places rfl rfl]
      simp only [Prod.Lex.le_iff,ofLex_toLex,true_and]
      omega
    · rw [below_places rfl rfl,below_places rfl rfl]
      simp only [Prod.Lex.le_iff,ofLex_toLex,true_and]
      omega

end Operations
end Headway.Double
