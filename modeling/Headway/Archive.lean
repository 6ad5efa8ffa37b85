import Headway.Decimal
import Headway.FileTree

namespace Headway

inductive Cell (α : Type) where
  | number (x : α)
  | count (n : Int)
  | flag (b : Bool)
  | name (text : String)
  | blank
deriving Repr, BEq

abbrev Record (α : Type) := List (String × Cell α)

-- The newest record is kept in front, where adding one does not touch the others.
structure Sheet (α : Type) where
  newestFirst : List (Record α)
deriving Repr

namespace Sheet
variable {α : Type}

def empty : Sheet α := ⟨[]⟩

def records (sheet : Sheet α) : List (Record α) := sheet.newestFirst.reverse

def append (sheet : Sheet α) (record : Record α) : Sheet α := ⟨record :: sheet.newestFirst⟩

theorem records_append (sheet : Sheet α) (record : Record α) :
    (sheet.append record).records = sheet.records ++ [record] := by
  simp [records, append]

def header (sheet : Sheet α) : List String :=
  (sheet.records.head?.getD []).map (·.1)

def rows (sheet : Sheet α) : List (List (Cell α)) :=
  sheet.records.map fun record => record.map (·.2)

end Sheet

def Cell.text : Cell Float → String
  | .number x => Decimal.Layout.cell.text x
  | .count n => toString n
  | .flag b => toString b
  | .name text => text
  | .blank => ""

def quoteCell (text : String) : String :=
  if text.any fun c => c = ',' || c = '"' || c = '\r' || c = '\n' then
    "\"" ++ text.replace "\"" "\"\"" ++ "\""
  else text

def csvLine (cells : List String) : String :=
  ",".intercalate (cells.map quoteCell) ++ "\n"

def Sheet.csv (sheet : Sheet Float) : String :=
  match sheet.records with
  | [] => ""
  | _ => csvLine sheet.header ++ "".intercalate (sheet.rows.map fun row => csvLine (row.map Cell.text))

inductive ArchiveError where
  | cannotOpen
  | notOpened
deriving Repr, DecidableEq

def ArchiveError.message : ArchiveError → String
  | .cannotOpen => "Cannot open the archive file"
  | .notOpened => "The archiver has not been initialised with a file"

structure Archiver where
  place : Option Place
deriving Repr, DecidableEq

namespace Archiver
variable {α : Type}

def closed : Archiver := ⟨none⟩

def isOpen (archiver : Archiver) : Bool := archiver.place.isSome

def create (files : FileTree (Sheet α)) (path : Path) :
    Except ArchiveError Archiver × FileTree (Sheet α) :=
  match files.create path .empty with
  | (some place, files) => (.ok ⟨some place⟩, files)
  | (none, files) => (.error .cannotOpen, files)

def write (archiver : Archiver) (record : Record α) (files : FileTree (Sheet α)) :
    Except ArchiveError (FileTree (Sheet α)) :=
  match archiver.place with
  | some place => .ok (files.modify place (·.append record))
  | none => .error .notOpened

end Archiver
end Headway
