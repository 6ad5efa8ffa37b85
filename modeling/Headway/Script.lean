import Headway.Command
import Headway.Decimal.Reading
import Headway.FileTree
import Headway.Text.Quoted

-- A statement starts a line, `<seconds>: <command>;`, and all that is no statement is passed over.
namespace Headway
open Text
variable {α : Type}

structure Statement where
  whole : List Char
  fraction : List Char
  command : List Char
deriving Repr, DecidableEq

namespace Statement

def fractionOf : List Char → List Char × List Char
  | '.' :: rest =>
      match rest.takeWhile isDigit with
      | [] => ([], '.' :: rest)
      | digits => (digits, rest.dropWhile isDigit)
  | rest => ([], rest)

-- White space may stand before each part and may break the line.
def read (cs : List Char) : Option (Statement × List Char) :=
  let cs := cs.dropWhile isBlank
  let whole := cs.takeWhile isDigit
  if whole = [] then none
  else
    let (fraction, rest) := fractionOf (cs.dropWhile isDigit)
    match rest.dropWhile isBlank with
    | ':' :: rest =>
        let body := rest.dropWhile isBlank
        match body.dropWhile (· ≠ ';') with
        | ';' :: rest => some (⟨whole, fraction, body.takeWhile (· ≠ ';')⟩, rest)
        | _ => none
    | _ => none

def nextLine (cs : List Char) : List Char := (cs.dropWhile (· ≠ '\n')).drop 1

-- Every round leaves at least one character behind, so the length of the text is fuel enough.
def allFrom : Nat → List Char → List Statement
  | 0, _ => []
  | _ + 1, [] => []
  | fuel + 1, cs =>
      match read cs with
      | some (statement, rest) => statement :: allFrom fuel (nextLine rest)
      | none => allFrom fuel (nextLine cs)

def all (cs : List Char) : List Statement := allFrom cs.length cs

def time? (statement : Statement) : Option Float :=
  if (statement.whole ++ statement.fraction).all isAsciiDigit then
    some (Decimal.nearestOfDigits statement.whole statement.fraction 0)
  else none

end Statement

structure Scheduled (α : Type) where
  time : α
  command : Command α
deriving Repr

structure Script (α : Type) where
  pending : List (Scheduled α)
deriving Repr

inductive ScriptError where
  | notFound (path : String)
  | unreadable
  | empty
  | badTime
  | outOfOrder (found after : Float)
  | badCommand (time : Float) (cause : CommandError)
deriving Repr

open Decimal.Layout in
def ScriptError.message : ScriptError → String
  | .notFound path => s!"Could not find the script at {quoted path}"
  | .unreadable => "Could not load the script"
  | .empty => "The script is empty (or is so bad it can't be read)"
  | .badTime =>
      "Script contains an invalid timestamp: invalid float literal. Should be a float (like 1.0)"
  | .outOfOrder found after =>
      s!"Script timestamps must not decrease, found {plain.text found} s after {plain.text after} s"
  | .badCommand time cause =>
      s!"Script contains an invalid command at {plain.text time} s: {cause.message}"

inductive Due (α : Type) where
  | nothing
  | commands (batch : List (Command α))
  | finished
deriving Repr

namespace Script

-- The first that will not do decides the error: its time first, then the order, then its command.
def schedule : Option Float → List Statement → Except ScriptError (List (Scheduled Float))
  | _, [] => .ok []
  | last, statement :: rest =>
      match statement.time? with
      | none => .error .badTime
      | some time =>
          match last.filter (time < ·) with
          | some after => .error (.outOfOrder time after)
          | none =>
              match Command.read statement.command with
              | .error cause => .error (.badCommand time cause)
              | .ok command => do return ⟨time, command⟩ :: (← schedule (some time) rest)

def read (cs : List Char) : Except ScriptError (Script Float) :=
  match schedule none (Statement.all cs) with
  | .error cause => .error cause
  | .ok [] => .error .empty
  | .ok pending => .ok ⟨pending⟩

def parse (text : String) : Except ScriptError (Script Float) := read text.toList

def load (disk : Disk) (here : Place) (path : String) : Except ScriptError (Script Float) :=
  match disk.readText here (.ofText path) with
  | .error .missing => .error (.notFound path)
  | .error .unreadable => .error .unreadable
  | .ok text => parse text

def length (script : Script α) : Nat := script.pending.length

variable [Scalar α]

def duration (script : Script α) : α :=
  match script.pending.getLast? with
  | some last => last.time
  | none => 0.0

def isDue (now : α) (scheduled : Scheduled α) : Bool := !(now < scheduled.time)

def poll (script : Script α) (now : α) : Due α × Script α :=
  match script.pending with
  | [] => (.finished, script)
  | pending =>
      match pending.takeWhile (isDue now) with
      | [] => (.nothing, script)
      | due => (.commands (due.map (·.command)), ⟨pending.dropWhile (isDue now)⟩)

end Script
end Headway
