-- A double is taken apart into m · 2^q, and its digits are found in exact arithmetic on naturals.
namespace Headway.Decimal

inductive Parts where
  | nan
  | infinite (negative : Bool)
  | finite (negative : Bool) (mantissa : Nat) (exponent : Int) (narrow : Bool)
deriving Repr, DecidableEq

def Parts.of (x : Float) : Parts :=
  let bits := x.toBits
  let negative := (bits >>> 63) == 1
  let biased := ((bits >>> 52) &&& 0x7FF).toNat
  let fraction := (bits &&& 0xFFFFFFFFFFFFF).toNat
  if biased = 2047 then if fraction = 0 then .infinite negative else .nan
  else if biased = 0 then .finite negative fraction (-1074) false
  else .finite negative (fraction + Nat.pow 2 52) (biased - 1075) (fraction = 0 ∧ 1 < biased)

structure Ratio where
  num : Nat
  den : Nat

namespace Ratio

def binary (mantissa : Nat) (exponent : Int) : Ratio :=
  ⟨mantissa * Nat.pow 2 exponent.toNat, Nat.pow 2 (-exponent).toNat⟩

def shift (r : Ratio) (places : Int) : Ratio :=
  ⟨r.num * Nat.pow 10 places.toNat, r.den * Nat.pow 10 (-places).toNat⟩

def le (a b : Ratio) : Bool := a.num * b.den ≤ b.num * a.den
def lt (a b : Ratio) : Bool := a.num * b.den < b.num * a.den

def nearest (r : Ratio) : Nat :=
  let q := r.num / r.den
  let twice := 2 * (r.num % r.den)
  if twice < r.den then q
  else if r.den < twice then q + 1
  else q + q % 2

def magnitude (r : Ratio) : Int :=
  let guess : Int := (toString r.num).length - (toString r.den).length
  if le ⟨1, 1⟩ (r.shift (-guess)) then guess else guess - 1

end Ratio

-- d₁.d₂…dₙ · 10^exponent.
structure Digits where
  text : List Char
  exponent : Int
deriving Repr, DecidableEq

def Digits.zero : Digits := ⟨['0'], 0⟩

def Digits.ofScaled (n : Nat) (places : Int) : Digits :=
  let written := (toString n).toList
  ⟨(written.reverse.dropWhile (· == '0')).reverse, written.length - 1 - places⟩

-- Of a grid of decimals only the two points around the value need a test.
structure Basin where
  low : Ratio
  value : Ratio
  high : Ratio
  closed : Bool

def Basin.of (mantissa : Nat) (exponent : Int) (narrow : Bool) : Basin :=
  ⟨.binary (4 * mantissa - if narrow then 1 else 2) (exponent - 2),
   .binary (4 * mantissa) (exponent - 2),
   .binary (4 * mantissa + 2) (exponent - 2),
   mantissa % 2 = 0⟩

def Basin.holds (basin : Basin) (point : Ratio) : Bool :=
  if basin.closed then basin.low.le point && point.le basin.high
  else basin.low.lt point && point.lt basin.high

def Basin.pointOn? (basin : Basin) (places : Int) : Option Nat :=
  let scaled := basin.value.shift places
  let below := scaled.num / scaled.den
  [scaled.nearest, below, below + 1].find? fun n => basin.holds ((Ratio.mk n 1).shift (-places))

-- Seventeen digits always tell a double from its neighbours, so the last grid needs no test.
def Basin.digits (basin : Basin) (places : Int) : Nat → Digits
  | 0 => .ofScaled (basin.value.shift places).nearest places
  | more + 1 =>
      match basin.pointOn? places with
      | some n => .ofScaled n places
      | none => basin.digits (places + 1) more

def shortest (mantissa : Nat) (exponent : Int) (narrow : Bool) : Digits :=
  if mantissa = 0 then .zero
  else
    let basin := Basin.of mantissa exponent narrow
    basin.digits (-basin.value.magnitude) 16

structure Layout where
  positional : Int → Bool
  pointZero : Bool

def Layout.plain : Layout := ⟨fun _ => true, false⟩
def Layout.field : Layout := ⟨fun e => -4 ≤ e ∧ e < 16, true⟩
def Layout.cell : Layout := ⟨fun e => -5 ≤ e ∧ e < 16, true⟩

def zeros (n : Nat) : List Char := List.replicate n '0'

def Layout.write (layout : Layout) (digits : Digits) : List Char :=
  let fraction (text : List Char) : List Char :=
    if text = [] then if layout.pointZero then ['.', '0'] else [] else '.' :: text
  if layout.positional digits.exponent then
    if digits.exponent < 0 then
      '0' :: '.' :: zeros ((-digits.exponent).toNat - 1) ++ digits.text
    else
      let whole := digits.exponent.toNat + 1
      digits.text.take whole ++ zeros (whole - digits.text.length) ++ fraction (digits.text.drop whole)
  else
    let tail := digits.text.drop 1
    digits.text.take 1 ++ (if tail = [] then [] else '.' :: tail) ++ 'e' :: (toString digits.exponent).toList

def signed (negative : Bool) (text : List Char) : String :=
  String.ofList (if negative then '-' :: text else text)

def Layout.text (layout : Layout) (x : Float) : String :=
  match Parts.of x with
  | .nan => "NaN"
  | .infinite negative => signed negative ['i', 'n', 'f']
  | .finite negative mantissa exponent narrow =>
      signed negative (layout.write (shortest mantissa exponent narrow))

def fixed (places : Nat) (x : Float) : String :=
  match Parts.of x with
  | .nan => "NaN"
  | .infinite negative => signed negative ['i', 'n', 'f']
  | .finite negative mantissa exponent _ =>
      let written := (toString ((Ratio.binary mantissa exponent).shift places).nearest).toList
      let padded := zeros (places + 1 - written.length) ++ written
      let whole := padded.take (padded.length - places)
      let fraction := padded.drop (padded.length - places)
      signed negative (if places = 0 then whole else whole ++ '.' :: fraction)

end Headway.Decimal
