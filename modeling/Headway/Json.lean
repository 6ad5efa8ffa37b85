import Headway.Json.Number

namespace Headway

inductive Json where
  | null
  | bool (b : Bool)
  | number (n : Json.Number)
  | string (text : String)
  | array (items : List Json)
  | object (fields : List (String × Json))

namespace Json
open Text

def field? (value : Json) (name : String) : Option Json :=
  match value with
  | .object fields => (fields.reverse.find? (·.1 = name)).map (·.2)
  | _ => none

def isNull : Json → Bool
  | .null => true
  | _ => false

def string? : Json → Option String
  | .string text => some text
  | _ => none

def bool? : Json → Option Bool
  | .bool b => some b
  | _ => none

def float? : Json → Option Float
  | .number n => some n.toFloat
  | _ => none

def isSpace (c : Char) : Bool := c = ' ' || c = '\n' || c = '\t' || c = '\r'

def skip (cs : List Char) : List Char := cs.dropWhile isSpace

-- The rest of a string, its opening quote taken off. A code point beyond the first plane is written
-- as two escapes with ten bits in each, and neither of them stands alone.
def stringRest (acc : List Char) : List Char → Option (String × List Char)
  | [] => none
  | '"' :: rest => some (String.ofList acc.reverse, rest)
  | '\\' :: 'u' :: a :: b :: c :: d :: '\\' :: 'u' :: e :: f :: g :: h :: rest =>
      match hexOf? [a, b, c, d] with
      | none => none
      | some high =>
          if 0xD800 ≤ high ∧ high < 0xDC00 then
            match hexOf? [e, f, g, h] with
            | some low =>
                if 0xDC00 ≤ low ∧ low < 0xE000 then
                  match charOf? (0x10000 + high % 0x400 * 0x400 + low % 0x400) with
                  | some c => stringRest (c :: acc) rest
                  | none => none
                else none
            | none => none
          else
            match charOf? high with
            | some x => stringRest (x :: acc) ('\\' :: 'u' :: e :: f :: g :: h :: rest)
            | none => none
  | '\\' :: 'u' :: a :: b :: c :: d :: rest =>
      match (hexOf? [a, b, c, d]).bind charOf? with
      | some x => stringRest (x :: acc) rest
      | none => none
  | '\\' :: c :: rest =>
      match escaped? c with
      | some x => stringRest (x :: acc) rest
      | none => none
  | c :: rest => if c.toNat < 0x20 ∨ c = '\\' then none else stringRest (c :: acc) rest
where
  escaped? : Char → Option Char
    | '"' => some '"'
    | '\\' => some '\\'
    | '/' => some '/'
    | 'b' => some '\x08'
    | 'f' => some '\x0c'
    | 'n' => some '\n'
    | 'r' => some '\r'
    | 't' => some '\t'
    | _ => none

def expect? : List Char → List Char → Option (List Char)
  | [], cs => some cs
  | w :: word, c :: cs => if w = c then expect? word cs else none
  | _ :: _, [] => none

-- The depth is how many arrays and objects may still be opened one in the other. The fuel only has to
-- outlast the text, of which every step takes at least one character.
mutual

def value (depth : Nat) : Nat → List Char → Option (Json × List Char)
  | 0, _ => none
  | fuel + 1, cs =>
      match skip cs with
      | '"' :: rest => (stringRest [] rest).map fun (text, rest) => (.string text, rest)
      | '[' :: rest =>
          match depth with
          | 0 => none
          | inner + 1 =>
              match skip rest with
              | ']' :: rest => some (.array [], rest)
              | rest => items inner fuel [] rest
      | '{' :: rest =>
          match depth with
          | 0 => none
          | inner + 1 =>
              match skip rest with
              | '}' :: rest => some (.object [], rest)
              | rest => fields inner fuel [] rest
      | 't' :: rest => (expect? ['r', 'u', 'e'] rest).map fun rest => (.bool true, rest)
      | 'f' :: rest => (expect? ['a', 'l', 's', 'e'] rest).map fun rest => (.bool false, rest)
      | 'n' :: rest => (expect? ['u', 'l', 'l'] rest).map fun rest => (.null, rest)
      | cs => (Number.read cs).map fun (n, rest) => (.number n, rest)

def items (depth : Nat) : Nat → List Json → List Char → Option (Json × List Char)
  | 0, _, _ => none
  | fuel + 1, acc, cs =>
      match value depth fuel cs with
      | none => none
      | some (item, rest) =>
          match skip rest with
          | ',' :: rest => items depth fuel (item :: acc) rest
          | ']' :: rest => some (.array (item :: acc).reverse, rest)
          | _ => none

def fields (depth : Nat) : Nat → List (String × Json) → List Char → Option (Json × List Char)
  | 0, _, _ => none
  | fuel + 1, acc, cs =>
      match skip cs with
      | '"' :: rest =>
          match stringRest [] rest with
          | none => none
          | some (name, rest) =>
              match skip rest with
              | ':' :: rest =>
                  match value depth fuel rest with
                  | none => none
                  | some (item, rest) =>
                      match skip rest with
                      | ',' :: rest => fields depth fuel ((name, item) :: acc) rest
                      | '}' :: rest => some (.object ((name, item) :: acc).reverse, rest)
                      | _ => none
              | _ => none
      | _ => none

end

def depthLimit : Nat := 127

def read (cs : List Char) : Option Json :=
  match value depthLimit (2 * cs.length + 2) cs with
  | some (result, rest) => if skip rest = [] then some result else none
  | none => none

def parse (text : String) : Option Json := read text.toList

end Json
end Headway
