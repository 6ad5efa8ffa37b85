import Headway.Proofs.Order
import Mathlib.Algebra.Order.Ring.Int
import Mathlib.Data.Prod.Lex

-- Running doubles compare as triples of whole numbers do: which of the five kinds, then exponent, then
-- mantissa. What is no number has no place among them.
namespace Headway.Double
open Float.Model UnpackedFloat

-- Exponent before mantissa is right because both operands are unpacked from the same format, in which a
-- larger exponent leaves no room for a smaller magnitude.
def placeOf : UnpackedFloat → Option (ℤ ×ₗ ℤ ×ₗ ℤ)
  | .notANumber => none
  | .infinity .negative => some (toLex (-2,toLex (0,0)))
  | .finite .negative m e _ => some (toLex (-1,toLex (-e,-m)))
  | .zero _ => some (toLex (0,toLex (0,0)))
  | .finite .positive m e _ => some (toLex (1,toLex (e,m)))
  | .infinity .positive => some (toLex (2,toLex (0,0)))

theorem compare_finite (kind e f m n : ℤ) :
    compare (toLex (kind,toLex (e,m)) : ℤ ×ₗ ℤ ×ₗ ℤ) (toLex (kind,toLex (f,n))) =
      (compare e f).then (compare m n) := by
  simp [Prod.Lex.compare_def,compareLex,compareOn]

theorem compare_neg (a b : ℤ) : compare (-a) (-b) = (compare a b).swap := by
  rcases lt_trichotomy a b with below | rfl | above
  · rw [compare_lt_iff_lt.mpr below,compare_gt_iff_gt.mpr (neg_lt_neg below)]; rfl
  · simp
  · rw [compare_gt_iff_gt.mpr above,compare_lt_iff_lt.mpr (neg_lt_neg above)]; rfl

theorem compare_cast (m n : ℕ) : compare (m : ℤ) (n : ℤ) = compare m n := by
  rcases lt_trichotomy m n with below | rfl | above
  · rw [compare_lt_iff_lt.mpr below,compare_lt_iff_lt.mpr (Int.ofNat_lt.mpr below)]
  · simp
  · rw [compare_gt_iff_gt.mpr above,compare_gt_iff_gt.mpr (Int.ofNat_lt.mpr above)]

theorem compare_exact (a b : UnpackedFloat) :
    a.compare b = (placeOf a).bind fun p => (placeOf b).map fun q => compare p q := by
  cases a with
  | notANumber => rfl
  | infinity s => cases s <;> rcases b with ⟨_ | _⟩ | _ | _ | ⟨_ | _,_,_,_⟩ <;> rfl
  | zero s => rcases b with ⟨_ | _⟩ | _ | _ | ⟨_ | _,_,_,_⟩ <;> rfl
  | finite s m e pos =>
    cases b with
    | notANumber => cases s <;> rfl
    | infinity t => cases s <;> cases t <;> rfl
    | zero t => cases s <;> rfl
    | finite t n f _ =>
      cases s <;> cases t
      · change some (((Ord.compare e f).then (Ord.compare m n)).swap) =
          some (Ord.compare (toLex ((-1 : ℤ),toLex (-e,-(m : ℤ)))) (toLex (-1,toLex (-f,-(n : ℤ)))))
        rw [compare_finite,compare_neg,compare_neg,compare_cast,Ordering.swap_then]
      · rfl
      · rfl
      · change some ((Ord.compare e f).then (Ord.compare m n)) =
          some (Ord.compare (toLex ((1 : ℤ),toLex (e,(m : ℤ)))) (toLex (1,toLex (f,(n : ℤ)))))
        rw [compare_finite,compare_cast]

theorem compared_lt {β : Type} [LinearOrder β] (left right : Option β) :
    (left.bind fun p => right.map fun q => compare p q) = some .lt ↔
      ∃ p q, left = some p ∧ right = some q ∧ p < q := by
  cases left <;> cases right <;> simp [compare_lt_iff_lt]

theorem compared_le {β : Type} [LinearOrder β] (left right : Option β) :
    (left.bind fun p => right.map fun q => compare p q).any (·.isLE) = true ↔
      ∃ p q, left = some p ∧ right = some q ∧ p ≤ q := by
  cases left <;> cases right <;> simp [compare_le_iff_le,Ordering.isLE_iff_ne_gt]

def Below (a b : UnpackedFloat) : Prop := ∃ p q, placeOf a = some p ∧ placeOf b = some q ∧ p ≤ q

theorem Below.trans {a b c : UnpackedFloat} (first : Below a b) (second : Below b c) : Below a c := by
  obtain ⟨p,q,left,middle,low⟩ := first
  obtain ⟨q',r,same,right,high⟩ := second
  cases Option.some.inj (middle.symm.trans same)
  exact ⟨p,r,left,right,low.trans high⟩

theorem below_places {u v : UnpackedFloat} {p q : ℤ ×ₗ ℤ ×ₗ ℤ} (left : placeOf u = some p)
    (right : placeOf v = some q) : Below u v ↔ p ≤ q := by
  constructor
  · rintro ⟨p',q',left',right',le⟩
    cases Option.some.inj (left.symm.trans left')
    cases Option.some.inj (right.symm.trans right')
    exact le
  · intro le
    exact ⟨p,q,left,right,le⟩

theorem number_exact {u : UnpackedFloat} : u.isNaN = false ↔ ∃ p, placeOf u = some p := by
  rcases u with ⟨_ | _⟩ | _ | _ | ⟨_ | _,_,_,_⟩
  · exact iff_of_true rfl ⟨_,rfl⟩
  · exact iff_of_true rfl ⟨_,rfl⟩
  · refine iff_of_false Bool.false_ne_true.symm ?_
    rintro ⟨p,none⟩
    cases none
  · exact iff_of_true rfl ⟨_,rfl⟩
  · exact iff_of_true rfl ⟨_,rfl⟩
  · exact iff_of_true rfl ⟨_,rfl⟩

def place (x : Float) : Option (ℤ ×ₗ ℤ ×ₗ ℤ) := placeOf x.toModel.unpack

theorem isNaN_exact {x : Float} : x.isNaN = false ↔ ∃ p, place x = some p := number_exact

theorem lt_exact {x y : Float} : x < y ↔ ∃ p q, place x = some p ∧ place y = some q ∧ p < q := by
  change decide (x.toModel < y.toModel) = true ↔ _
  rw [decide_eq_true_iff]
  change (x.toModel.unpack.compare y.toModel.unpack == some .lt) = true ↔ _
  rw [beq_iff_eq,compare_exact]
  exact compared_lt _ _

theorem le_exact {x y : Float} : x ≤ y ↔ ∃ p q, place x = some p ∧ place y = some q ∧ p ≤ q := by
  change decide (x.toModel ≤ y.toModel) = true ↔ _
  rw [decide_eq_true_iff]
  change (x.toModel.unpack.compare y.toModel.unpack).any (·.isLE) = true ↔ _
  rw [compare_exact]
  exact compared_le _ _

instance : Ordered Float where
  numbers_of_le bound := by
    obtain ⟨p,q,left,right,_⟩ := le_exact.mp bound
    exact ⟨isNaN_exact.mpr ⟨p,left⟩,isNaN_exact.mpr ⟨q,right⟩⟩
  le_total left right := by
    obtain ⟨p,left⟩ := isNaN_exact.mp left
    obtain ⟨q,right⟩ := isNaN_exact.mp right
    rcases le_total p q with le | ge
    · exact .inl (le_exact.mpr ⟨p,q,left,right,le⟩)
    · exact .inr (le_exact.mpr ⟨q,p,right,left,ge⟩)
  le_trans first second := le_exact.mpr (Below.trans (le_exact.mp first) (le_exact.mp second))
  lt_exact := by
    intro x y
    constructor
    · intro below
      obtain ⟨p,q,left,right,less⟩ := lt_exact.mp below
      refine ⟨le_exact.mpr ⟨p,q,left,right,less.le⟩,?_⟩
      intro back
      obtain ⟨q',p',right',left',le⟩ := le_exact.mp back
      cases Option.some.inj (left.symm.trans left')
      cases Option.some.inj (right.symm.trans right')
      exact less.not_ge le
    · rintro ⟨bound,strict⟩
      obtain ⟨p,q,left,right,le⟩ := le_exact.mp bound
      refine lt_exact.mpr ⟨p,q,left,right,lt_of_le_of_ne le ?_⟩
      rintro rfl
      exact strict (le_exact.mpr ⟨p,p,right,left,le_refl p⟩)

end Headway.Double
