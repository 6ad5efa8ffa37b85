import Headway.Decimal.Reading
import Headway.Toml.Text
import Headway.Word

namespace Headway.Toml
open Text

inductive Number where
  | integer (n : Int)
  | float (x : Float)
  | date
deriving Repr

def digitRun (radix : Nat) (zerosInFront : Bool) (first zero underscore : Bool) :
    List Char → Option (List Char × List Char)
  | [] => if first || underscore then none else some ([], [])
  | c :: rest =>
      let more (zero underscore : Bool) :=
        (digitRun radix zerosInFront false zero underscore rest).map fun (run, rest) => (c :: run, rest)
      if c = '0' ∧ first then more true underscore
      else if (hexValue? c).any (· < radix) then
        if !first && zero && !zerosInFront then none else more zero false
      else if c = '_' ∧ first then none
      else if c = '_' ∧ !underscore then more zero true
      else if first || underscore then none
      else some ([], c :: rest)

def signedRun (cs : List Char) (zerosInFront : Bool) : Option (Bool × List Char × List Char) :=
  match cs with
  | '-' :: rest => (digitRun 10 zerosInFront true false false rest).map fun run => (true, run)
  | '+' :: rest => (digitRun 10 zerosInFront true false false rest).map fun run => (false, run)
  | cs => (digitRun 10 zerosInFront true false false cs).map fun run => (false, run)

def plainDigits (run : List Char) : List Char := run.filter (· ≠ '_')

def natInRadix (radix : Nat) (run : List Char) : Nat :=
  (plainDigits run).foldl (fun n c => n * radix + (hexValue? c).getD 0) 0

def integerOf (n : Int) : Option Number :=
  if Word.holds n then some (.integer n) else none

def radixInteger (radix : Nat) (word : List Char) : Option Number :=
  match digitRun radix true true false false word with
  | some (run, []) => integerOf (natInRadix radix run)
  | _ => none

def decimalInteger (word : List Char) : Option Number :=
  match signedRun word false with
  | some (negative, run, []) =>
      let n : Int := natOf (plainDigits run)
      integerOf (if negative then -n else n)
  | _ => none

def floatOf (negative : Bool) (whole fraction : List Char) (exponent : Int) : Option Number :=
  let x := Decimal.nearestOfDigits (plainDigits whole) (plainDigits fraction) exponent
  if x.isFinite then some (.float (if negative then -x else x)) else none

def exponentOf (negative : Bool) (run : List Char) : Int :=
  let n : Int := natOf (plainDigits run)
  if negative then -n else n

def withExponent (negative : Bool) (whole fraction suffix rest : List Char) :
    Option (Number × List Char) :=
  match suffix with
  | [] => (floatOf negative whole fraction 0).map fun x => (x, rest)
  | e :: power =>
      if e ≠ 'e' ∧ e ≠ 'E' then none
      else if power = [] then
        let rest := match rest with
          | '+' :: rest => rest
          | rest => rest
        match digitRun 10 true true false false (rest.takeWhile isBare) with
        | some (run, []) =>
            (floatOf negative whole fraction (exponentOf false run)).map fun x =>
              (x, rest.dropWhile isBare)
        | _ => none
      else
        match signedRun power true with
        | some (below, run, []) =>
            (floatOf negative whole fraction (exponentOf below run)).map fun x => (x, rest)
        | _ => none

def numberOf (word rest : List Char) : Option (Number × List Char) :=
  match word with
  | '0' :: 'x' :: digits => (radixInteger 16 digits).map fun n => (n, rest)
  | '0' :: 'o' :: digits => (radixInteger 8 digits).map fun n => (n, rest)
  | '0' :: 'b' :: digits => (radixInteger 2 digits).map fun n => (n, rest)
  | _ =>
      if word.contains 'e' ∨ word.contains 'E' then
        match signedRun word false with
        | some (negative, whole, suffix) => withExponent negative whole [] suffix rest
        | none => none
      else
        match rest with
        | '.' :: after =>
            match signedRun word false, digitRun 10 true true false false (after.takeWhile isBare) with
            | some (negative, whole, []), some (fraction, suffix) =>
                withExponent negative whole fraction suffix (after.dropWhile isBare)
            | _, _ => none
        | _ =>
            if word = "inf".toList then some (.float (1.0 / 0.0), rest)
            else if word = "-inf".toList then some (.float (-1.0 / 0.0), rest)
            else if word = "nan".toList ∨ word = "-nan".toList then some (.float (0.0 / 0.0), rest)
            else (decimalInteger word).map fun n => (n, rest)

def skipWord (cs : List Char) : Option (List Char) :=
  if cs.head?.any isBare then some (cs.dropWhile isBare) else none

def skipMarked (mark : Char) (cs : List Char) : Option (List Char) :=
  match cs with
  | c :: rest => if c = mark then skipWord rest else some cs
  | [] => some []

-- A minus belongs to the word in front of it, a plus does not; so some offsets leave only a colon.
def skipClock (cs : List Char) : Option (List Char) := do
  let rest ← skipWord cs
  match rest with
  | ':' :: rest => do
      let rest ← skipWord rest
      let rest ← skipMarked '.' rest
      let rest ← skipMarked '+' rest
      skipMarked ':' rest
  | _ => none

def skipHour (cs : List Char) : List Char :=
  match cs with
  | ' ' :: rest => if rest.head?.any isBare then rest.dropWhile isBare else cs
  | _ => cs

def skipDate (cs : List Char) : Option (List Char) :=
  match skipHour cs with
  | ':' :: rest => skipClock rest
  | rest => some rest

def hasDateDash (word : List Char) : Bool :=
  (word.drop 1).contains '-' && !hasExponentDash word
where
  hasExponentDash : List Char → Bool
    | a :: b :: rest => ((a = 'e' || a = 'E') && b = '-') || hasExponentDash (b :: rest)
    | _ => false

def isDateWord (word : List Char) : Bool :=
  word.contains 'T' || word.contains 't' || hasDateDash word

def numberOrDate (word rest : List Char) : Option (Number × List Char) :=
  if isDateWord word then (skipDate rest).map fun rest => (.date, rest)
  else
    match rest with
    | ':' :: after => (skipClock (skipHour after)).map fun rest => (.date, rest)
    | _ => numberOf word rest

end Headway.Toml
