import Headway.Proofs.Exact
import Headway.SpeedTargets

-- The ceiling of a turn, in exact arithmetic. It rises with the radius over tight curves and over wide ones. Between
-- them it rises to a summit at 337.5 metres and falls from there to 500.
namespace Headway.SpeedTargets
open Scalar

section Scalars
variable {α : Type} [Scalar α]

def comfortSquare (radius : α) : α := comfort radius * radius

-- The radius that a curvature counts as. Next to none counts as ten kilometres.
def radiusOf (curvature : α) : α := 1.0 / greater (Scalar.abs curvature) 1e-4

end Scalars

section Radius
variable {tight wide radius : ℝ}

theorem comfortSquare_tight (within : radius ≤ 250) :
    comfortSquare radius = 3 * radius - 13 / 2500 * radius ^ 2 := by
  unfold comfortSquare comfort
  rw [if_neg (not_lt.mpr (by linarith)),if_neg (not_lt.mpr (by linarith))]
  linarith

-- Where comfort is eased off, a parabola stands over the radius.
theorem comfortSquare_easing (above : 250 ≤ radius) (below : radius ≤ 500) :
    comfortSquare radius = 3645 / 8 - (radius - 675 / 2) ^ 2 / 250 := by
  rcases above.eq_or_lt with rfl | above
  · rw [comfortSquare_tight le_rfl]
    norm_num
  · unfold comfortSquare comfort
    rw [if_neg (not_lt.mpr (by linarith)),if_pos (by linarith)]
    linarith

theorem comfortSquare_wide (beyond : 500 ≤ radius) : comfortSquare radius = 7 / 10 * radius := by
  rcases beyond.eq_or_lt with rfl | beyond
  · rw [comfortSquare_easing (by norm_num) le_rfl]
    norm_num
  · unfold comfortSquare comfort
    rw [if_pos (by linarith)]
    norm_num

theorem comfortSquare_easing_exact (above : 250 ≤ tight) (wider : tight ≤ wide) (below : wide ≤ 500) :
    comfortSquare tight ≤ comfortSquare wide ↔ tight = wide ∨ tight + wide ≤ 675 := by
  have gained : comfortSquare wide - comfortSquare tight = (wide - tight) * (675 - (tight + wide)) / 250 := by
    rw [comfortSquare_easing above (wider.trans below),comfortSquare_easing (above.trans wider) below]
    ring
  rw [← sub_nonneg,gained,le_div_iff₀ (by norm_num),zero_mul]
  rcases wider.eq_or_lt with same | apart
  · exact iff_of_true (by simp [same]) (.inl same)
  · rw [mul_nonneg_iff_of_pos_left (sub_pos.mpr apart),sub_nonneg,or_iff_right apart.ne]

theorem comfortSquare_rising (wider : tight ≤ wide) (below : wide ≤ 675 / 2) : comfortSquare tight ≤ comfortSquare wide := by
  have tighter {tight wide : ℝ} (wider : tight ≤ wide) (below : wide ≤ 250) : comfortSquare tight ≤ comfortSquare wide := by
    rw [comfortSquare_tight below,comfortSquare_tight (wider.trans below)]
    nlinarith
  have easing {tight : ℝ} (above : 250 ≤ tight) (wider : tight ≤ wide) : comfortSquare tight ≤ comfortSquare wide :=
    (comfortSquare_easing_exact above wider (by linarith)).mpr (.inr (by linarith))
  rcases le_total wide 250 with both | above
  · exact tighter wider both
  · rcases le_total tight 250 with below | both
    · exact (tighter below le_rfl).trans (easing le_rfl above)
    · exact easing both wider

theorem comfortSquare_summit : comfortSquare (675 / 2 : ℝ) = 3645 / 8 := by
  rw [comfortSquare_easing (by norm_num) (by norm_num)]
  norm_num

theorem comfortSquare_peak (below : radius ≤ 500) : comfortSquare radius ≤ 3645 / 8 := by
  rcases le_total radius (675 / 2) with rising | falling
  · exact comfortSquare_summit ▸ comfortSquare_rising rising le_rfl
  · rw [comfortSquare_easing (by linarith) below]
    linarith [div_nonneg (sq_nonneg (radius - 675 / 2)) (by norm_num : (0 : ℝ) ≤ 250)]

theorem comfortSquare_floor (beyond : 675 / 2 ≤ radius) : 350 ≤ comfortSquare radius := by
  rcases le_total radius 500 with easing | wide
  · rw [comfortSquare_easing (by linarith) easing]
    nlinarith
  · rw [comfortSquare_wide wide]
    linarith

theorem comfortSquare_wider (wider : tight ≤ wide) : min (comfortSquare tight) 350 ≤ comfortSquare wide := by
  rcases le_total wide (675 / 2) with rising | beyond
  · exact min_le_of_left_le (comfortSquare_rising wider rising)
  · exact min_le_of_right_le (comfortSquare_floor beyond)

-- Past the summit a curve has to be as wide as this to come up to it again.
theorem comfortSquare_summit_exact (beyond : 675 / 2 < wide) : 3645 / 8 ≤ comfortSquare wide ↔ 18225 / 28 ≤ wide := by
  rcases le_total wide 500 with easing | far
  · rw [comfortSquare_easing (by linarith) easing]
    apply iff_of_false
    · have fallen : 0 < (wide - 675 / 2) ^ 2 := sq_pos_of_pos (sub_pos.mpr beyond)
      linarith
    · linarith
  · rw [comfortSquare_wide far]
    constructor <;> intro <;> linarith

theorem comfortSquare_highest (wider : tight ≤ wide) (highest : wide ≤ 675 / 2 ∨ 18225 / 28 ≤ wide) :
    comfortSquare tight ≤ comfortSquare wide := by
  rcases highest with rising | far
  · exact comfortSquare_rising wider rising
  · rcases le_total tight 500 with below | both
    · exact (comfortSquare_peak below).trans ((comfortSquare_summit_exact (by linarith)).mpr far)
    · rw [comfortSquare_wide both,comfortSquare_wide (both.trans wider)]
      linarith

theorem comfortSquare_lowest (wider : tight ≤ wide) (lowest : 500 ≤ tight ∨ comfortSquare tight ≤ 350) :
    comfortSquare tight ≤ comfortSquare wide := by
  rcases lowest with beyond | low
  · rw [comfortSquare_wide beyond,comfortSquare_wide (beyond.trans wider)]
    linarith
  · exact min_eq_left low ▸ comfortSquare_wider wider

end Radius

section Curvature
variable {tight wide curvature least most : ℝ}

theorem radiusOf_max (curvature : ℝ) : radiusOf curvature = 1 / max |curvature| (1 / 10 ^ 4) := by
  unfold radiusOf
  rw [greater_max]
  norm_num
  rfl

theorem radiusOf_pos (curvature : ℝ) : 0 < radiusOf curvature := by
  rw [radiusOf_max]
  exact one_div_pos.mpr (lt_max_of_lt_right (by norm_num))

theorem radiusOf_longest (curvature : ℝ) : radiusOf curvature ≤ 10 ^ 4 := by
  rw [radiusOf_max]
  exact (one_div_le_one_div_of_le (by norm_num) (le_max_right _ _)).trans_eq (one_div_one_div _)

theorem radiusOf_wider (gentler : |wide| ≤ |tight|) : radiusOf tight ≤ radiusOf wide := by
  rw [radiusOf_max,radiusOf_max]
  exact one_div_le_one_div_of_le (lt_max_of_lt_right (by norm_num)) (max_le_max_right _ gentler)

theorem radiusOf_exact (curved : 1 / 10 ^ 4 ≤ |curvature|) : radiusOf curvature = 1 / |curvature| := by
  rw [radiusOf_max,max_eq_left curved]

theorem radiusOf_tight (curved : 1 / 10 ^ 4 ≤ curvature) : radiusOf curvature = 1 / curvature := by
  have left : |curvature| = curvature := abs_of_nonneg (le_trans (by norm_num) curved)
  rw [radiusOf_exact (curved.trans_eq left.symm),left]

theorem radiusOf_le_exact (curved : 1 / 10 ^ 4 < least) : radiusOf curvature ≤ 1 / least ↔ least ≤ |curvature| := by
  rw [radiusOf_max,one_div_le_one_div (lt_max_of_lt_right (by norm_num)) (by linarith [show (0 : ℝ) < 1 / 10 ^ 4 by norm_num]),
    le_max_iff,or_iff_left curved.not_ge]

theorem le_radiusOf_exact (curved : 1 / 10 ^ 4 ≤ most) : 1 / most ≤ radiusOf curvature ↔ |curvature| ≤ most := by
  rw [radiusOf_max,one_div_le_one_div (by linarith [show (0 : ℝ) < 1 / 10 ^ 4 by norm_num]) (lt_max_of_lt_right (by norm_num)),
    max_le_iff,and_iff_left curved]

theorem comfortSquare_between (curvature : ℝ) :
    0 ≤ comfortSquare (radiusOf curvature) ∧ comfortSquare (radiusOf curvature) ≤ 7000 := by
  have positive := radiusOf_pos curvature
  have longest := radiusOf_longest curvature
  constructor
  · rcases le_total (radiusOf curvature) 250 with tight | beyond
    · rw [comfortSquare_tight tight]
      nlinarith
    · have wider := comfortSquare_wider beyond
      rw [comfortSquare_tight le_rfl] at wider
      exact le_trans (by norm_num) wider
  · rcases le_total (radiusOf curvature) 500 with below | wide
    · exact (comfortSquare_peak below).trans (by norm_num)
    · rw [comfortSquare_wide wide]
      linarith

-- No curve is wide enough for the sentinel to be its ceiling.
theorem curveSpeed_exact (curvature : ℝ) : curveSpeed curvature = √(comfortSquare (radiusOf curvature)) := by
  have below : √(comfortSquare (radiusOf curvature)) ≤ noCeiling := by
    rw [Real.sqrt_le_left (by norm_num [noCeiling])]
    exact (comfortSquare_between curvature).2.trans (by norm_num [noCeiling])
  change lesser √(comfortSquare (radiusOf curvature)) noCeiling = _
  rw [lesser_min]
  exact min_eq_left below

theorem curveSpeed_le_exact : curveSpeed tight ≤ curveSpeed wide ↔
    comfortSquare (radiusOf tight) ≤ comfortSquare (radiusOf wide) := by
  rw [curveSpeed_exact,curveSpeed_exact,Real.sqrt_le_sqrt_iff (comfortSquare_between wide).1]

theorem curveSpeed_highest_exact :
    (∀ tight, |wide| ≤ |tight| → curveSpeed tight ≤ curveSpeed wide) ↔ 2 / 675 ≤ |wide| ∨ |wide| ≤ 28 / 18225 := by
  have rising : radiusOf wide ≤ 675 / 2 ↔ 2 / 675 ≤ |wide| := by
    rw [← radiusOf_le_exact (by norm_num),one_div_div]
  have far : 18225 / 28 ≤ radiusOf wide ↔ |wide| ≤ 28 / 18225 := by
    rw [← le_radiusOf_exact (by norm_num),one_div_div]
  rw [← rising,← far]
  constructor
  · intro highest
    rcases le_or_gt (radiusOf wide) (675 / 2) with rises | beyond
    · exact .inl rises
    · have gentler : |wide| ≤ |2 / 675| := by
        rw [abs_of_pos (by norm_num : (0 : ℝ) < 2 / 675)]
        exact (not_le.mp (rising.not.mp beyond.not_ge)).le
      have taken := curveSpeed_le_exact.mp (highest (2 / 675) gentler)
      have summit : radiusOf (2 / 675 : ℝ) = 675 / 2 := (radiusOf_tight (by norm_num)).trans (one_div_div _ _)
      rw [summit,comfortSquare_summit,comfortSquare_summit_exact beyond] at taken
      exact .inr taken
  · intro highest tight gentler
    exact curveSpeed_le_exact.mpr (comfortSquare_highest (radiusOf_wider gentler) highest)

theorem curveSpeed_lowest_exact :
    (∀ wide, |wide| ≤ |tight| → curveSpeed tight ≤ curveSpeed wide) ↔ |tight| ≤ 1 / 500 ∨ curveSpeed tight ≤ √350 := by
  have beyond : 500 ≤ radiusOf tight ↔ |tight| ≤ 1 / 500 := by
    rw [← le_radiusOf_exact (by norm_num),one_div_one_div]
  have low : comfortSquare (radiusOf tight) ≤ 350 ↔ curveSpeed tight ≤ √350 := by
    rw [curveSpeed_exact,Real.sqrt_le_sqrt_iff (by norm_num)]
  rw [← beyond,← low]
  constructor
  · intro lowest
    rcases le_or_gt |tight| (1 / 500) with wide | curved
    · exact .inl (beyond.mpr wide)
    · have gentler : |1 / 500| ≤ |tight| := by
        rw [abs_of_pos (by norm_num : (0 : ℝ) < 1 / 500)]
        exact curved.le
      have taken := curveSpeed_le_exact.mp (lowest (1 / 500) gentler)
      have edge : radiusOf (1 / 500 : ℝ) = 500 := (radiusOf_tight (by norm_num)).trans (one_div_one_div _)
      rw [edge,comfortSquare_wide le_rfl] at taken
      exact .inr (by linarith)
  · intro lowest wide gentler
    exact curveSpeed_le_exact.mpr (comfortSquare_lowest (radiusOf_wider gentler) lowest)

theorem curveSpeed_easing_exact (below : 1 / 500 ≤ |wide|) (gentler : |wide| ≤ |tight|) (above : |tight| ≤ 1 / 250) :
    curveSpeed tight ≤ curveSpeed wide ↔ |tight| = |wide| ∨ 1 / |tight| + 1 / |wide| ≤ 675 := by
  have wider := radiusOf_wider gentler
  have longest : radiusOf wide ≤ 1 / (1 / 500) := (radiusOf_le_exact (by norm_num)).mpr below
  have shortest : 1 / (1 / 250) ≤ radiusOf tight := (le_radiusOf_exact (by norm_num)).mpr above
  rw [one_div_one_div] at longest shortest
  have same : 1 / |tight| = 1 / |wide| ↔ |tight| = |wide| := by rw [one_div,one_div,inv_inj]
  rw [curveSpeed_le_exact,comfortSquare_easing_exact shortest wider longest,
    radiusOf_exact (le_trans (by norm_num) (below.trans gentler)),radiusOf_exact (le_trans (by norm_num) below),same]

theorem curveSpeed_least (gentler : |wide| ≤ |tight|) : min (curveSpeed tight) √350 ≤ curveSpeed wide := by
  have wider := comfortSquare_wider (radiusOf_wider gentler)
  rw [curveSpeed_exact,curveSpeed_exact]
  rcases min_le_iff.mp wider with higher | least
  · exact min_le_of_left_le (Real.sqrt_le_sqrt higher)
  · exact min_le_of_right_le (Real.sqrt_le_sqrt least)

end Curvature

-- How the ceiling of a curve compares with that of a tighter one. Outside the radii from 337.5 to 650.9 metres it is as
-- high as that of any tighter curve, inside them some tighter curve has a higher one.
theorem curveSpeed_wider :
    (∀ wide : ℝ, (∀ tight, |wide| ≤ |tight| → curveSpeed tight ≤ curveSpeed wide) ↔
        2 / 675 ≤ |wide| ∨ |wide| ≤ 28 / 18225) ∧
      (∀ tight : ℝ, (∀ wide, |wide| ≤ |tight| → curveSpeed tight ≤ curveSpeed wide) ↔
        |tight| ≤ 1 / 500 ∨ curveSpeed tight ≤ √350) ∧
      (∀ tight wide : ℝ, 1 / 500 ≤ |wide| → |wide| ≤ |tight| → |tight| ≤ 1 / 250 →
        (curveSpeed tight ≤ curveSpeed wide ↔ |tight| = |wide| ∨ 1 / |tight| + 1 / |wide| ≤ 675)) ∧
      ∀ tight wide : ℝ, |wide| ≤ |tight| → min (curveSpeed tight) √350 ≤ curveSpeed wide :=
  ⟨fun _ => curveSpeed_highest_exact,fun _ => curveSpeed_lowest_exact,fun _ _ => curveSpeed_easing_exact,
    fun _ _ => curveSpeed_least⟩

theorem curveSpeed_wider_bands :
    (|(-1 / 1000 : ℝ)| ≤ |1 / 15| ∧ curveSpeed (1 / 15) ≤ curveSpeed (-1 / 1000 : ℝ)) ∧
      |(1 / 480 : ℝ)| ≤ |1 / 360| ∧ ¬ curveSpeed (1 / 360) ≤ curveSpeed (1 / 480 : ℝ) ∧
      min (curveSpeed (1 / 360)) √350 ≤ curveSpeed (1 / 480 : ℝ) := by
  obtain ⟨highest,_,easing,least⟩ := curveSpeed_wider
  have kilometre : |(-1 / 1000 : ℝ)| = 1 / 1000 := by norm_num [abs_of_neg]
  have corner : |(1 / 15 : ℝ)| = 1 / 15 := abs_of_pos (by norm_num)
  have wide : |(1 / 480 : ℝ)| = 1 / 480 := abs_of_pos (by norm_num)
  have tight : |(1 / 360 : ℝ)| = 1 / 360 := abs_of_pos (by norm_num)
  have gentler : |(-1 / 1000 : ℝ)| ≤ |1 / 15| := by
    rw [kilometre,corner]
    norm_num
  have gentler' : |(1 / 480 : ℝ)| ≤ |1 / 360| := by
    rw [wide,tight]
    norm_num
  refine ⟨⟨gentler,?_⟩,gentler',?_,least _ _ gentler'⟩
  · apply (highest (-1 / 1000)).mpr (.inr _) _ gentler
    rw [kilometre]
    norm_num
  · rw [easing (1 / 360) (1 / 480) (by rw [wide]; norm_num) gentler' (by rw [tight]; norm_num),wide,tight]
    norm_num

theorem wider_curve_slower : |(1 / 500 : ℝ)| ≤ |3 / 1000| ∧ ¬ curveSpeed (3 / 1000) ≤ curveSpeed (1 / 500 : ℝ) := by
  have wide : |(1 / 500 : ℝ)| = 1 / 500 := abs_of_pos (by norm_num)
  have tight : |(3 / 1000 : ℝ)| = 3 / 1000 := abs_of_pos (by norm_num)
  have gentler : |(1 / 500 : ℝ)| ≤ |3 / 1000| := by
    rw [wide,tight]
    norm_num
  refine ⟨gentler,?_⟩
  rw [curveSpeed_easing_exact wide.ge gentler (by rw [tight]; norm_num),wide,tight]
  norm_num

end Headway.SpeedTargets
