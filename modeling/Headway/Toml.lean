import Headway.Toml.Value

namespace Headway.Toml

structure Section where
  path : List String
  repeated : Bool
  entries : Entries

def endLine (cs : List Char) : Option (List Char) :=
  match skipSpace cs with
  | [] => some []
  | '\n' :: rest => some rest
  | '#' :: rest => skipComment rest
  | _ => none

def heading (fuel : Nat) (cs : List Char) : Option (Section × List Char) :=
  let (repeated, cs) := match cs with
    | '[' :: rest => (true, rest)
    | _ => (false, cs)
  match repeated, key fuel (skipSpace cs) with
  | false, some (path, ']' :: rest) => (endLine rest).map fun rest => (⟨path, false, []⟩, rest)
  | true, some (path, ']' :: ']' :: rest) => (endLine rest).map fun rest => (⟨path, true, []⟩, rest)
  | _, _ => none

def sectionsFrom (done : List Section) (current : Section) : Nat → List Char → Option (List Section)
  | 0, _ => none
  | fuel + 1, cs =>
      match skipBetween false cs with
      | none => none
      | some [] => some (current :: done).reverse
      | some ('[' :: rest) =>
          match heading fuel rest with
          | some (next, rest) => sectionsFrom (current :: done) next fuel rest
          | none => none
      | some cs =>
          match keyAndEquals fuel cs with
          | none => none
          | some (parts, rest) =>
              match value fuel rest with
              | none => none
              | some (item, rest) =>
                  match insert current.entries parts item, endLine rest with
                  | some entries, some rest =>
                      sectionsFrom done { current with entries } fuel rest
                  | _, _ => none

def sections (text : String) : Option (List Section) :=
  let cs := foldLineEnds text.toList
  let cs := match cs with
    | '\uFEFF' :: rest => rest
    | _ => cs
  match sectionsFrom [] ⟨[], false, []⟩ (2 * cs.length + 3) cs with
  | some (⟨[], false, []⟩ :: rest) => some rest
  | other => other

-- Sections under one path build one table wherever they stand. A section may not repeat the heading
-- that the table goes by: its first one, or a shorter one behind that.
mutual

def tableOf (depth : Nat) (parent : Option (List String)) : Nat → List Section → Option Entries
  | 0, _ => none
  | _ + 1, [] => some []
  | fuel + 1, first :: rest =>
      if parent = some first.path then none
      else
        let shorter := match parent with
          | some path => if first.path.length < path.length then first.path else path
          | none => first.path
        match first.path[depth]? with
        | none =>
            if first.repeated then none
            else (tableOf depth (some shorter) fuel rest).map (first.entries ++ ·)
        | some name =>
            let (inside, outside) := rest.partition (·.path[depth]? = some name)
            let item :=
              if first.repeated ∧ first.path.length = depth + 1 then
                (tablesOf (depth + 1) fuel (first :: inside)).map .array
              else (tableOf (depth + 1) none fuel (first :: inside)).map (.table .headed)
            match item, tableOf depth (some shorter) fuel outside with
            | some item, some entries => some ((name, item) :: entries)
            | _, _ => none

def tablesOf (depth : Nat) : Nat → List Section → Option (List Value)
  | 0, _ => none
  | _ + 1, [] => some []
  | fuel + 1, first :: rest =>
      let own := rest.takeWhile fun s => !(s.path = first.path && s.repeated)
      match tableOf depth (some first.path) fuel own,
          tablesOf depth fuel (rest.drop own.length) with
      | some entries, some others => some (.table .headed (first.entries ++ entries) :: others)
      | _, _ => none

end

def steps (sections : List Section) : Nat :=
  sections.foldl (fun n s => n + s.path.length + 2) 1

def table (sections : List Section) : Option Entries := tableOf 0 none (steps sections) sections

end Headway.Toml
