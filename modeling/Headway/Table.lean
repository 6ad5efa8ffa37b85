import Headway.Scalar

-- A value outside the knots is held, and what is not a number stays as it is.
namespace Headway
open Scalar

structure Knot (α : Type) where
  x : α
  y : α
deriving Repr, BEq

structure Table (α : Type) where
  first : Knot α
  second : Knot α
  rest : List (Knot α)

namespace Table
variable {α : Type} [Scalar α]

def of (first second : α × α) (rest : List (α × α)) : Table α :=
  ⟨⟨first.1, first.2⟩, ⟨second.1, second.2⟩, rest.map fun knot => ⟨knot.1, knot.2⟩⟩

def knots (table : Table α) : List (Knot α) :=
  table.first :: table.second :: table.rest

def last (table : Table α) : Knot α :=
  table.rest.getLast?.getD table.second

-- Nothing is assumed about the order of the knots, and the search may leave them behind.
def search? (x : α) : List (Knot α) → Option (Knot α × Knot α)
  | left :: right :: rest =>
      if right.x < x then search? x (right :: rest) else some (left, right)
  | _ => none

def segment (x : α) : Knot α → Knot α → List (Knot α) → Knot α × Knot α
  | left, right, [] => (left, right)
  | left, right, next :: rest =>
      if right.x < x then segment x right next rest else (left, right)

def read (table : Table α) (x : α) : α :=
  if isNaN x then x
  else if x ≤ table.first.x then table.first.y
  else if table.last.x ≤ x then table.last.y
  else
    let (left, right) := segment x table.first table.second table.rest
    if right.x == x then right.y else rescale left.x right.x left.y right.y x

end Table

def columns {α : Type} (breakpoints values : List α) : List (Knot α) :=
  (breakpoints.zip values).map fun knot => ⟨knot.1, knot.2⟩

inductive TableError where
  | malformed
  | outside (length : Nat)
deriving Repr, DecidableEq

def TableError.message : TableError → String
  | .malformed => "Interpolation table must be non-empty with matching lengths"
  | .outside length => s!"index out of bounds: the len is {length} but the index is {length}"

def interpolate {α : Type} [Scalar α] (breakpoints values : List α) (x : α) : Except TableError α :=
  if breakpoints.length ≠ values.length then .error .malformed
  else
    match columns breakpoints values with
    | [] => .error .malformed
    | first :: others =>
        if isNaN x then .ok x
        else if x ≤ first.x then .ok first.y
        else
          let last := others.getLast?.getD first
          if last.x ≤ x then .ok last.y
          else
            match Table.search? x (first :: others) with
            | none => .error (.outside (first :: others).length)
            | some (left, right) =>
                .ok (if right.x == x then right.y else rescale left.x right.x left.y right.y x)

end Headway
