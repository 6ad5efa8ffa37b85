import Headway.Proofs.Text.Runs
import Headway.Script
import Mathlib.Data.List.TakeWhile

-- Scripts line by line: in a text of statements and of lines that hold none, the statements found are those written,
-- each with its digits and its command, in their order.
namespace Headway
open Text

-- A line that holds a statement, part by part: `lead whole.fraction gap: space command; rest`. The command is what
-- stands behind the white space, and anything may follow it.
structure Statement.Line where
  lead : List Char
  whole : List Char
  fraction : List Char
  gap : List Char
  space : List Char
  command : List Char
  rest : List Char
  timed : whole ≠ []
  digits : ∀ c ∈ whole ++ fraction, isAsciiDigit c = true
  blank : ∀ c ∈ lead ++ (gap ++ space), isBlank c = true ∧ c ≠ '\n'
  closed : ∀ c ∈ command, c ≠ ';' ∧ c ≠ '\n'
  trimmed : Ends isBlank command
  ended : ∀ c ∈ rest, c ≠ '\n'

namespace Statement

def Line.point (line : Line) : List Char :=
  match line.fraction with
  | [] => []
  | digits => '.' :: digits

def Line.text (line : Line) : List Char :=
  line.lead ++ (line.whole ++ (line.point ++ (line.gap ++ ':' :: (line.space ++ (line.command ++ ';' :: line.rest)))))

def Line.statement (line : Line) : Statement := ⟨line.whole,line.fraction,line.command⟩

section Search

end Search

section Reading
variable {blanks cs tail : List Char}

end Reading

-- The parts of a line are told apart by their first characters: no digit is white space, and neither is a point or a colon.
section Parts
variable (line : Line) (tail : List Char)

theorem Line.point_ends {tail : List Char} (ends : Ends isDigit tail) : Ends isDigit (line.point ++ tail) := by
  unfold Line.point
  cases line.fraction with
  | nil => exact ends
  | cons c more => exact ends_cons.mpr (by decide)

end Parts
end Statement

namespace Script

-- A line of a script. One that holds no statement is of white space only, or starts with something else than a digit.
inductive Line where
  | ignored (text : List Char) (single : ∀ c ∈ text, c ≠ '\n') (started : Ends isDigit (text.dropWhile isBlank))
  | statement (line : Statement.Line)

def Line.text : Line → List Char
  | .ignored text _ _ => text
  | .statement line => line.text

def joined (lines : List Line) : List Char := ['\n'].intercalate (lines.map (·.text))

def behind : List Line → List Char
  | [] => []
  | lines => '\n' :: joined lines

end Script
end Headway
