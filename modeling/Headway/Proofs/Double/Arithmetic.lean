import Headway.Proofs.Double.Monotone

-- Which operations on numbers give numbers again. Nothing makes a number of what is none.
namespace Headway.Double
open Float.Model UnpackedFloat

theorem missing_packed {f : UnpackedFloat → UnpackedFloat → UnpackedFloat} {a b : UnpackedFloat}
    (left : ∀ b, f .notANumber b = .notANumber) (right : ∀ a, f a .notANumber = .notANumber)
    (missing : a.isNaN = true ∨ b.isNaN = true) : (Float.Model.pack (f a b)).isNaN = true := by
  have void : f a b = .notANumber := by
    rcases missing with first | second
    · cases a with
      | notANumber => exact left b
      | _ => cases first
    · cases b with
      | notANumber => exact right a
      | _ => cases second
  rw [void]
  decide

section Operations
variable {x y z : Float}

theorem add_missing (missing : x.isNaN = true ∨ y.isNaN = true) : (x + y).isNaN = true :=
  missing_packed (f := UnpackedFloat.add Format.binary64) (fun _ => rfl) (fun a => by cases a <;> rfl) missing

theorem sub_missing (missing : x.isNaN = true ∨ y.isNaN = true) : (x - y).isNaN = true :=
  missing_packed (f := UnpackedFloat.sub Format.binary64) (fun _ => rfl) (fun a => by cases a <;> rfl) missing

theorem mul_missing (missing : x.isNaN = true ∨ y.isNaN = true) : (x * y).isNaN = true :=
  missing_packed (f := UnpackedFloat.mul Format.binary64) (fun _ => rfl) (fun a => by cases a <;> rfl) missing

theorem div_missing (missing : x.isNaN = true ∨ y.isNaN = true) : (x / y).isNaN = true :=
  missing_packed (f := UnpackedFloat.div Format.binary64) (fun _ => rfl) (fun a => by cases a <;> rfl) missing

theorem numbers_of_result (lost : x.isNaN = true ∨ y.isNaN = true → z.isNaN = true) (number : z.isNaN = false) :
    x.isNaN = false ∧ y.isNaN = false := by
  have kept : ¬ (x.isNaN = true ∨ y.isNaN = true) := by
    intro missing
    rw [lost missing] at number
    cases number
  simpa using kept

theorem numbers_of_add (number : (x + y).isNaN = false) : x.isNaN = false ∧ y.isNaN = false :=
  numbers_of_result add_missing number

theorem numbers_of_sub (number : (x - y).isNaN = false) : x.isNaN = false ∧ y.isNaN = false :=
  numbers_of_result sub_missing number

theorem numbers_of_mul (number : (x * y).isNaN = false) : x.isNaN = false ∧ y.isNaN = false :=
  numbers_of_result mul_missing number

theorem numbers_of_div (number : (x / y).isNaN = false) : x.isNaN = false ∧ y.isNaN = false :=
  numbers_of_result div_missing number

theorem add_number (finite : x.isFinite = true) (number : y.isNaN = false) : (x + y).isNaN = false :=
  (Ordered.numbers_of_le (add_mono_second finite (Ordered.le_refl number))).1

theorem add_finite_number (number : x.isNaN = false) (finite : y.isFinite = true) : (x + y).isNaN = false :=
  (Ordered.numbers_of_le (add_mono_first finite (Ordered.le_refl number))).1

theorem sub_number (number : x.isNaN = false) (finite : y.isFinite = true) : (x - y).isNaN = false :=
  (Ordered.numbers_of_le (sub_mono_first finite (Ordered.le_refl number))).1

theorem mul_number (finite : x.isFinite = true) (finite' : y.isFinite = true) : (x * y).isNaN = false :=
  (nearest_mul finite finite').number

theorem scaled_number (number : x.isNaN = false) (finite : z.isFinite = true) (pos : 0.0 < z) : (z * x).isNaN = false := by
  rw [mul_swap]
  exact (Ordered.numbers_of_le (mul_mono finite pos (Ordered.le_refl number))).1

theorem div_number (number : x.isNaN = false) (finite : z.isFinite = true) (pos : 0.0 < z) : (x / z).isNaN = false :=
  (Ordered.numbers_of_le (div_mono finite pos (Ordered.le_refl number))).1

-- Where neither operand is endless above there is nothing for an endless one below to cancel.
theorem add_number_below {b c : Float} (left : x ≤ b) (right : y ≤ c) (finite : b.isFinite = true)
    (finite' : c.isFinite = true) : (x + y).isNaN = false := by
  have bottom {x b : Float} (le : x ≤ b) (finite : b.isFinite = true) : x.isFinite = true ∨ Endless .negative x := by
    rcases le_cases le with ⟨here,_,_⟩ | bottom | top
    · exact .inl here
    · exact .inr bottom
    · rw [not_finite top] at finite
      cases finite
  rcases bottom left finite with here | endless
  · exact add_number here (Ordered.numbers_of_le right).1
  · rcases bottom right finite' with here | endless'
    · exact add_finite_number endless.number here
    · exact (endless.together endless').number

end Operations
end Headway.Double
