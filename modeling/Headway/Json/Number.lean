import Headway.Text.Class
import Headway.Word

-- The digits of a number are gathered in a word while they fit; the others only move the exponent.
namespace Headway.Json
open Text

inductive Number where
  | integer (n : Int)
  | real (x : Float)
deriving Repr

def Number.toFloat : Number → Float
  | .integer n => Float.ofInt n
  | .real x => x

def powerOfTen (n : Nat) : Float := Float.ofScientific 1 false n

-- The table of powers ends at 10^308, and smaller numbers are divided twice.
def scaled (word : Nat) (exponent : Int) : Option Float :=
  let x := Float.ofNat word
  if 0 ≤ exponent then
    if word = 0 then some 0.0
    else if 308 < exponent then none
    else
      let product := x * powerOfTen exponent.toNat
      if product.isInf then none else some product
  else if -308 ≤ exponent then some (x / powerOfTen (-exponent).toNat)
  else if -616 ≤ exponent then some (x / powerOfTen 308 / powerOfTen (-exponent - 308).toNat)
  else some 0.0

def gather (word : Nat) : List Char → Nat × Nat × List Char
  | [] => (word, 0, [])
  | c :: rest =>
      if isAsciiDigit c ∧ word * 10 + digitValue c ≤ Word.max then
        let (word, taken, rest) := gather (word * 10 + digitValue c) rest
        (word, taken + 1, rest)
      else (word, 0, c :: rest)

def signedReal (negative : Bool) (x : Option Float) (rest : List Char) : Option (Number × List Char) :=
  x.map fun x => (.real (if negative then -x else x), rest)

def exponentPart (negative : Bool) (word : Nat) (exponent : Int) (cs : List Char) :
    Option (Number × List Char) :=
  match cs with
  | e :: rest =>
      if e = 'e' ∨ e = 'E' then
        let (below, rest) := match rest with
          | '+' :: rest => (false, rest)
          | '-' :: rest => (true, rest)
          | rest => (false, rest)
        let digits := rest.takeWhile isAsciiDigit
        if digits = [] then none
        else
          let size : Int := natOf digits
          signedReal negative (scaled word (if below then exponent - size else exponent + size))
            (rest.dropWhile isAsciiDigit)
      else signedReal negative (scaled word exponent) cs
  | [] => signedReal negative (scaled word exponent) []

def fractionPart (negative : Bool) (word : Nat) (exponent : Int) (cs : List Char) :
    Option (Number × List Char) :=
  let (word', taken, rest) := gather word cs
  let beyond := rest.dropWhile isAsciiDigit
  if taken = 0 ∧ beyond.length = rest.length then none
  else exponentPart negative word' (exponent - taken) beyond

def whole (negative : Bool) (word : Nat) : Number :=
  if negative then
    if word ≠ 0 ∧ Word.holds (-(word : Int)) then .integer (-(word : Int)) else .real (-(Float.ofNat word))
  else .integer word

def afterWhole (negative : Bool) (word extra : Nat) (cs : List Char) : Option (Number × List Char) :=
  match cs with
  | '.' :: rest => fractionPart negative word extra rest
  | c :: _ =>
      if c = 'e' ∨ c = 'E' ∨ 0 < extra then exponentPart negative word extra cs
      else some (whole negative word, cs)
  | [] => if 0 < extra then exponentPart negative word extra [] else some (whole negative word, [])

def unsigned (negative : Bool) (cs : List Char) : Option (Number × List Char) :=
  match cs with
  | '0' :: rest =>
      if rest.head?.any isAsciiDigit then none else afterWhole negative 0 0 rest
  | c :: _ =>
      if isAsciiDigit c then
        let (word, _, rest) := gather 0 cs
        let extra := rest.takeWhile isAsciiDigit
        afterWhole negative word extra.length (rest.dropWhile isAsciiDigit)
      else none
  | [] => none

def Number.read (cs : List Char) : Option (Number × List Char) :=
  match cs with
  | '-' :: rest => unsigned true rest
  | cs => unsigned false cs

end Headway.Json
