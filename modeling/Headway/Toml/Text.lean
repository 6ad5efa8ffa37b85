import Headway.Text.Class

-- Line ends have been brought to one form before any of this is read.
namespace Headway.Toml
open Text

def foldLineEnds : List Char → List Char
  | '\r' :: '\n' :: rest => '\n' :: foldLineEnds rest
  | c :: rest => c :: foldLineEnds rest
  | [] => []

def isSpace (c : Char) : Bool := c = ' ' || c = '\t'

def skipSpace (cs : List Char) : List Char := cs.dropWhile isSpace

def isBare (c : Char) : Bool := c.isAlphanum || c = '-' || c = '_'

def isPlain (c : Char) : Bool := c = '\t' || (' ' ≤ c && c ≠ '\x7f')

def skipBlankLines (cs : List Char) : List Char := cs.dropWhile fun c => isSpace c || c = '\n'

def escape (manyLines : Bool) : List Char → Option (List Char × List Char)
  | '"' :: rest => some (['"'], rest)
  | '\\' :: rest => some (['\\'], rest)
  | 'b' :: rest => some (['\x08'], rest)
  | 'f' :: rest => some (['\x0c'], rest)
  | 'n' :: rest => some (['\n'], rest)
  | 'r' :: rest => some (['\r'], rest)
  | 't' :: rest => some (['\t'], rest)
  | 'u' :: rest => code 4 rest
  | 'U' :: rest => code 8 rest
  | c :: rest =>
      if manyLines ∧ (isSpace c ∨ c = '\n') then
        match skipSpace (c :: rest) with
        | '\n' :: rest => some ([], skipBlankLines rest)
        | [] => some ([], [])
        | _ => none
      else none
  | [] => none
where
  code (length : Nat) (cs : List Char) : Option (List Char × List Char) :=
    if cs.length < length then none
    else (hexOf? (cs.take length)).bind charOf? |>.map fun c => ([c], cs.drop length)

-- Ends a string of several lines, where up to two quotes before the closing three belong to it.
def closing (quote : Char) (cs : List Char) : Option (List Char × List Char) :=
  match cs with
  | a :: b :: c :: rest =>
      if a = quote ∧ b = quote ∧ c = quote then
        let more := (rest.takeWhile (· = quote)).take 2
        some (more, rest.drop more.length)
      else none
  | _ => none

-- Fuel is handed down from the whole text, of whose characters every step takes one at least.
def stringRest (quote : Char) (manyLines : Bool) (acc : List Char) :
    Nat → List Char → Option (String × List Char)
  | 0, _ => none
  | _ + 1, [] => none
  | fuel + 1, c :: rest =>
      if c = quote then
        if manyLines then
          match closing quote (c :: rest) with
          | some (more, rest) => some (String.ofList (acc.reverse ++ more), rest)
          | none => stringRest quote manyLines (c :: acc) fuel rest
        else some (String.ofList acc.reverse, rest)
      else if c = '\n' then
        if manyLines then stringRest quote manyLines (c :: acc) fuel rest else none
      else if c = '\\' ∧ quote = '"' then
        match escape manyLines rest with
        | some (meant, rest) => stringRest quote manyLines (meant ++ acc) fuel rest
        | none => none
      else if isPlain c then stringRest quote manyLines (c :: acc) fuel rest
      else none

def string (fuel : Nat) (quote : Char) (cs : List Char) : Option (String × Bool × List Char) :=
  match cs with
  | a :: b :: rest =>
      if a = quote ∧ b = quote then
        let rest := match rest with
          | '\n' :: rest => rest
          | rest => rest
        (stringRest quote true [] fuel rest).map fun (text, rest) => (text, true, rest)
      else oneLine
  | _ => oneLine
where
  oneLine : Option (String × Bool × List Char) :=
    (stringRest quote false [] fuel cs).map fun (text, rest) => (text, false, rest)

def keyPart (fuel : Nat) (cs : List Char) : Option (String × List Char) :=
  match cs with
  | c :: rest =>
      if c = '"' ∨ c = '\'' then
        match string fuel c rest with
        | some (text, false, rest) => some (text, rest)
        | _ => none
      else if isBare c then
        some (String.ofList (cs.takeWhile isBare), cs.dropWhile isBare)
      else none
  | [] => none

def key : Nat → List Char → Option (List String × List Char)
  | 0, _ => none
  | fuel + 1, cs =>
      match keyPart fuel cs with
      | none => none
      | some (part, rest) =>
          match skipSpace rest with
          | '.' :: rest =>
              (key fuel (skipSpace rest)).map fun (parts, rest) => (part :: parts, rest)
          | rest => some ([part], rest)

end Headway.Toml
