import Headway.Text.Class

namespace Headway.Decimal
open Text

-- Far outside the range of doubles the answer is known without writing the power of ten out.
def nearestDouble (n : Nat) (exponent : Int) : Float :=
  let size : Int := (toString n).length + exponent
  if n = 0 ∨ size < -400 then 0.0
  else if 400 < size then 1.0 / 0.0
  else Float.ofScientific n (exponent < 0) exponent.natAbs

def nearestOfDigits (whole fraction : List Char) (exponent : Int) : Float :=
  nearestDouble (natOf (whole ++ fraction)) (exponent - fraction.length)

end Headway.Decimal
