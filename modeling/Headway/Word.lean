namespace Headway.Word

def max : Nat := Nat.pow 2 64 - 1

def holds (n : Int) : Bool := -(Nat.pow 2 63) ≤ n && n < Nat.pow 2 63

end Headway.Word
