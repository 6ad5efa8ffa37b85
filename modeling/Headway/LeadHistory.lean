import Headway.Table

-- Losing the lead empties the recent speeds and not the sampled ones.
namespace Headway
open Scalar

structure BoundedBuffer (α : Type) where
  capacity : Nat
  items : List α
deriving Repr

namespace BoundedBuffer
variable {α : Type}

def empty (capacity : Nat) : BoundedBuffer α := ⟨capacity, []⟩

def push (buffer : BoundedBuffer α) (item : α) : BoundedBuffer α :=
  if buffer.capacity = 0 then buffer
  else
    let surplus := buffer.items.length + 1 - buffer.capacity
    { buffer with items := buffer.items.drop surplus ++ [item] }

def clear (buffer : BoundedBuffer α) : BoundedBuffer α := { buffer with items := [] }

def length (buffer : BoundedBuffer α) : Nat := buffer.items.length
def first? (buffer : BoundedBuffer α) : Option α := buffer.items.head?
def last? (buffer : BoundedBuffer α) : Option α := buffer.items.getLast?

end BoundedBuffer

def samplesPerSecond : Nat := 20

structure LeadHistory (α : Type) where
  recent : BoundedBuffer α
  sampled : BoundedBuffer α
  sinceSample : Nat
deriving Repr

namespace LeadHistory
variable {α : Type}

def start : LeadHistory α :=
  ⟨.empty (3 * samplesPerSecond), .empty 180, 0⟩

def record (history : LeadHistory α) : Option α → LeadHistory α
  | none => { history with recent := history.recent.clear }
  | some speed =>
      let recent := history.recent.push speed
      if history.sinceSample + 1 ≥ samplesPerSecond then
        ⟨recent, history.sampled.push speed, 0⟩
      else
        ⟨recent, history.sampled, history.sinceSample + 1⟩

variable [Scalar α]

def accelEstimate (history : LeadHistory α) : α :=
  if history.recent.length ≤ 2 * samplesPerSecond then 0.0
  else
    match history.recent.first?, history.recent.last? with
    | some first, some last =>
        (last - first) / (ofNat history.recent.length / ofNat samplesPerSecond)
    | _, _ => 0.0

-- Little change from second to second is dense traffic, and fades out with speed below 45 mph.
def trafficByChange : Table α :=
  .of (0.0, 1.2) (0.21, 1.19) [(0.466, 1.17), (0.722, 1.13), (0.856, 1.09), (0.96, 1.04), (1.0, 1.0)]
def trafficBySpeed : Table α :=
  .of (20.1168, 0.2) (24.5872, 0.0) []

def changes : List α → List α
  | a :: b :: rest => abs (b - a) :: changes (b :: rest)
  | _ => []

def trafficLevel (history : LeadHistory α) (egoSpeed : α) : α :=
  if history.sampled.length < 20 then 1.0
  else
    let steps := changes history.sampled.items
    let mean := steps.foldl (· + ·) 0.0 / ofNat steps.length
    greater (trafficByChange.read mean - trafficBySpeed.read egoSpeed) 1.0

end LeadHistory
end Headway
