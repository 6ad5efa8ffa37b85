-- Run at doubles this is the planner, read at the real numbers it is the planner in exact arithmetic.
namespace Headway

class Scalar (α : Type) extends Add α, Sub α, Mul α, Div α, Neg α, LT α, LE α, BEq α, OfScientific α where
  decideLt : DecidableLT α
  decideLe : DecidableLE α
  ofNat : Nat → α
  abs : α → α
  sqrt : α → α
  exp : α → α
  round : α → α
  isNaN : α → Bool
  isFinite : α → Bool

namespace Scalar
variable {α : Type} [Scalar α]

instance : DecidableLT α := decideLt
instance : DecidableLE α := decideLe

-- What is not a number gives way to the other operand.
def lesser (x y : α) : α :=
  if isNaN x then y else if y < x then y else x

def greater (x y : α) : α :=
  if isNaN x then y else if x < y then y else x

def clamp (low high x : α) : α :=
  let raised := if x < low then low else x
  if high < raised then high else raised

def powerLoop : Nat → α → α → Nat → α
  | 0, result, _, _ => result
  | rounds + 1, result, base, exponent =>
      let result := if exponent % 2 = 1 then result * base else result
      if exponent / 2 = 0 then result
      else powerLoop rounds result (base * base) (exponent / 2)

def power (base : α) (exponent : Int) : α :=
  let result := powerLoop exponent.natAbs 1.0 base exponent.natAbs
  if exponent < 0 then 1.0 / result else result

def roundTo (decimals : Int) (x : α) : α :=
  let scale := power 10.0 decimals
  round (x * scale) / scale

def rescale (s₀ s₁ t₀ t₁ x : α) : α :=
  t₀ + ((x - s₀) * (t₁ - t₀) / (s₁ - s₀))

end Scalar

-- Half away from zero. In between the fraction bits are dropped after adding a half.
def roundHalfAway (x : Float) : Float :=
  let bits := x.toBits
  let exponent := ((bits >>> 52) &&& 0x7FF).toNat
  let negative := (bits >>> 63) == 1
  if exponent ≥ 1075 then x
  else if exponent < 1022 then if negative then -0.0 else 0.0
  else
    let mantissa := (bits &&& 0xFFFFFFFFFFFFF).toNat + Nat.pow 2 52
    let shift := 1075 - exponent
    let whole := ((mantissa + Nat.pow 2 (shift - 1)) / Nat.pow 2 shift).toUInt64.toFloat
    if negative then -whole else whole

instance : Scalar Float where
  decideLt := fun a b => Float.decLt a b
  decideLe := fun a b => Float.decLe a b
  ofNat := Float.ofNat
  abs := Float.abs
  sqrt := Float.sqrt
  exp := Float.exp
  round := roundHalfAway
  isNaN := Float.isNaN
  isFinite := Float.isFinite

end Headway
