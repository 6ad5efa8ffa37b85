import Headway.Decimal.Reading
import Headway.Word

namespace Headway.Duration

def nanosPerSecond : Nat := 1000000000

def toFloat (n : Int) : Float :=
  let x := Decimal.nearestDouble n.natAbs 0
  if n < 0 then -x else x

def seconds? (nanos : Int) : Option Float :=
  if Word.holds nanos then some (toFloat nanos / 1e9) else none

def nanosSaturated (seconds nanos : Nat) : Nat :=
  min (seconds * nanosPerSecond + nanos) Word.max

end Headway.Duration
