import Headway.Toml.Number

namespace Headway.Toml

inductive TableForm where
  | braced
  | dotted
  | headed
deriving Repr, DecidableEq

inductive Value where
  | string (text : String)
  | bool (b : Bool)
  | number (n : Number)
  | array (items : List Value)
  | table (form : TableForm) (entries : List (String × Value))

abbrev Entries := List (String × Value)

-- A name may stand twice in a table; whoever reads the table decides what that means.
def insert (entries : Entries) (key : List String) (value : Value) : Option Entries :=
  match key with
  | [] => none
  | [name] => some (entries ++ [(name, value)])
  | name :: inner =>
      match entries.findIdx? (·.1 = name) with
      | none => (insert [] inner value).map fun made => entries ++ [(name, .table .dotted made)]
      | some index =>
          match entries[index]? with
          | some (_, .table .dotted present) =>
              (insert present inner value).map fun made => entries.set index (name, .table .dotted made)
          | _ => none

def skipComment (cs : List Char) : Option (List Char) :=
  match cs.dropWhile fun c => c = '\t' || ' ' ≤ c with
  | '\n' :: rest => some rest
  | [] => some []
  | _ => none

def skipBetween (inComment : Bool) : List Char → Option (List Char)
  | [] => some []
  | c :: rest =>
      if c = '\n' then skipBetween false rest
      else if inComment then
        if c = '\t' ∨ ' ' ≤ c then skipBetween true rest else none
      else if isSpace c then skipBetween false rest
      else if c = '#' then skipBetween true rest
      else some (c :: rest)

def keyAndEquals (fuel : Nat) (cs : List Char) : Option (List String × List Char) :=
  match key fuel cs with
  | some (parts, '=' :: rest) => some (parts, skipSpace rest)
  | _ => none

def wordValue (word rest : List Char) : Option (Value × List Char) :=
  let number (read : Option (Number × List Char)) := read.map fun (n, rest) => (Value.number n, rest)
  if word = "true".toList then some (.bool true, rest)
  else if word = "false".toList then some (.bool false, rest)
  else if startsNumber then number (numberOrDate word rest)
  else none
where
  startsNumber : Bool :=
    word = "inf".toList || word = "nan".toList ||
      word.head?.any fun c => c = '-' || Text.isAsciiDigit c

-- With two of fuel for every character of the text it lasts: an item takes one besides its value's own.
mutual

def value : Nat → List Char → Option (Value × List Char)
  | 0, _ => none
  | fuel + 1, cs =>
      match cs with
      | '"' :: rest => (string fuel '"' rest).map fun (text, _, rest) => (.string text, rest)
      | '\'' :: rest => (string fuel '\'' rest).map fun (text, _, rest) => (.string text, rest)
      | '[' :: rest => items fuel [] rest
      | '{' :: rest =>
          match skipSpace rest with
          | '}' :: rest => some (.table .braced [], rest)
          | rest => braced fuel [] rest
      | '+' :: rest =>
          if rest.head?.any isBare then
            (numberOf (rest.takeWhile isBare) (rest.dropWhile isBare)).map fun (n, rest) =>
              (.number n, rest)
          else none
      | cs =>
          if cs.head?.any isBare then wordValue (cs.takeWhile isBare) (cs.dropWhile isBare) else none

def items : Nat → List Value → List Char → Option (Value × List Char)
  | 0, _, _ => none
  | fuel + 1, acc, cs =>
      match skipBetween false cs with
      | none => none
      | some (']' :: rest) => some (.array acc.reverse, rest)
      | some cs =>
          match value fuel cs with
          | none => none
          | some (item, rest) =>
              match skipBetween false rest with
              | some (',' :: rest) => items fuel (item :: acc) rest
              | some (']' :: rest) => some (.array (item :: acc).reverse, rest)
              | _ => none

def braced : Nat → Entries → List Char → Option (Value × List Char)
  | 0, _, _ => none
  | fuel + 1, acc, cs =>
      match keyAndEquals fuel cs with
      | none => none
      | some (parts, rest) =>
          match value fuel rest with
          | none => none
          | some (item, rest) =>
              match insert acc parts item, skipSpace rest with
              | some acc, '}' :: rest => some (.table .braced acc, rest)
              | some acc, ',' :: rest => braced fuel acc (skipSpace rest)
              | _, _ => none

end

end Headway.Toml
