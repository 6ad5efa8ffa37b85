import Headway.Scalar

-- Doubles and exact numbers are compared by the same laws, so a rule that only compares has one proof for both.
namespace Headway
open Scalar
variable {α : Type} [Scalar α]

-- A reading that is no number is on neither side of anything, itself included.
class Ordered (α : Type) [Scalar α] : Prop where
  numbers_of_le : ∀ {x y : α}, x ≤ y → isNaN x = false ∧ isNaN y = false
  le_total : ∀ {x y : α}, isNaN x = false → isNaN y = false → x ≤ y ∨ y ≤ x
  le_trans : ∀ {x y z : α}, x ≤ y → y ≤ z → x ≤ z
  lt_exact : ∀ {x y : α}, x < y ↔ x ≤ y ∧ ¬ y ≤ x

namespace Ordered
variable [Ordered α] {x y z low high : α}

theorem le_refl (number : isNaN x = false) : x ≤ x :=
  (le_total number number).elim id id

theorem le_of_lt (below : x < y) : x ≤ y := (lt_exact.mp below).1

theorem numbers_of_lt (below : x < y) : isNaN x = false ∧ isNaN y = false :=
  numbers_of_le (le_of_lt below)

theorem not_lt_missing (missing : isNaN x = true ∨ isNaN y = true) : ¬ x < y := by
  intro below
  obtain ⟨left,right⟩ := numbers_of_lt below
  rw [left,right] at missing
  simp at missing

theorem not_lt_of_le (bound : x ≤ y) : ¬ y < x :=
  fun below => (lt_exact.mp below).2 bound

theorem le_of_not_lt (left : isNaN x = false) (right : isNaN y = false) (bound : ¬ y < x) : x ≤ y := by
  rcases le_total left right with le | ge
  · exact le
  · apply Classical.byContradiction
    intro above
    exact bound (lt_exact.mpr ⟨ge,above⟩)

theorem lt_irrefl (x : α) : ¬ x < x := by
  intro below
  exact (lt_exact.mp below).2 (le_of_lt below)

theorem lt_of_lt_of_le (below : x < y) (bound : y ≤ z) : x < z := by
  obtain ⟨le,strict⟩ := lt_exact.mp below
  exact lt_exact.mpr ⟨le_trans le bound,fun back => strict (le_trans bound back)⟩

theorem lt_of_le_of_lt (bound : x ≤ y) (below : y < z) : x < z := by
  obtain ⟨le,strict⟩ := lt_exact.mp below
  exact lt_exact.mpr ⟨le_trans bound le,fun back => strict (le_trans back bound)⟩

theorem lt_trans (first : x < y) (second : y < z) : x < z :=
  lt_of_lt_of_le first (le_of_lt second)

theorem lt_asymm (below : x < y) : ¬ y < x := not_lt_of_le (le_of_lt below)

theorem lesser_number (number : isNaN x = false ∨ isNaN y = false) : isNaN (lesser x y) = false := by
  unfold lesser
  split
  · rename_i missing
    rcases number with left | right
    · rw [left] at missing; cases missing
    · exact right
  · rename_i left
    split
    · rename_i below; exact (numbers_of_lt below).1
    · simpa using left

theorem lesser_le_right (number : isNaN y = false) : lesser x y ≤ y := by
  unfold lesser
  split
  · exact le_refl number
  · rename_i left
    split
    · exact le_refl number
    · rename_i bound; exact le_of_not_lt (by simpa using left) number bound

theorem lesser_le_left (number : isNaN x = false) : lesser x y ≤ x := by
  unfold lesser
  rw [if_neg (by simp [number])]
  split
  · rename_i below; exact le_of_lt below
  · exact le_refl number

omit [Ordered α] in
theorem le_lesser (left : low ≤ x) (right : low ≤ y) : low ≤ lesser x y := by
  unfold lesser
  split
  · exact right
  · split
    · exact right
    · exact left

theorem greater_number (number : isNaN x = false ∨ isNaN y = false) : isNaN (greater x y) = false := by
  unfold greater
  split
  · rename_i missing
    rcases number with left | right
    · rw [left] at missing; cases missing
    · exact right
  · rename_i left
    split
    · rename_i below; exact (numbers_of_lt below).2
    · simpa using left

theorem le_greater_right (number : isNaN y = false) : y ≤ greater x y := by
  unfold greater
  split
  · exact le_refl number
  · rename_i left
    split
    · exact le_refl number
    · rename_i bound; exact le_of_not_lt number (by simpa using left) bound

theorem le_greater_left (number : isNaN x = false) : x ≤ greater x y := by
  unfold greater
  rw [if_neg (by simp [number])]
  split
  · rename_i below; exact le_of_lt below
  · exact le_refl number

theorem greater_le_exact (left : x ≤ high) (number : isNaN y = false) :
    greater x y ≤ high ↔ y ≤ high := by
  refine ⟨fun bound => le_trans (le_greater_right number) bound,?_⟩
  intro right
  unfold greater
  split
  · exact right
  · split
    · exact right
    · exact left

theorem le_greater_exact (left : isNaN x = false) (right : isNaN y = false) :
    z ≤ greater x y ↔ z ≤ x ∨ z ≤ y := by
  constructor
  · intro bound
    unfold greater at bound
    rw [if_neg (by simp [left])] at bound
    split at bound
    · exact .inr bound
    · exact .inl bound
  · rintro (bound | bound)
    · exact le_trans bound (le_greater_left left)
    · exact le_trans bound (le_greater_right right)

end Ordered
end Headway
