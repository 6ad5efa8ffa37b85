import Headway.FileTree
import Headway.Params
import Headway.Toml

namespace Headway
open Toml (Entries Section Value)

inductive LoadError where
  | rootNotSet
  | unreadable
  | malformed
deriving Repr, DecidableEq

def LoadError.message : LoadError → String
  | .rootNotSet => "The software root environment variable (LONG_PLAN_SW_ROOT) is not set"
  | .unreadable => "Cannot load the parameter file"
  | .malformed => "Cannot read the parameter file"

namespace Params

def field {β : Type} (entries : Entries) (name : String) (read : Value → Option β) (standard : β) :
    Option β :=
  match entries.filter (·.1 = name) with
  | [] => some standard
  | [(_, value)] => read value
  | _ => none

def number? : Value → Option Float
  | .number (.integer n) => some (Float.ofInt n)
  | .number (.float x) => some x
  | _ => none

def flag? : Value → Option Bool
  | .bool b => some b
  | _ => none

def modes : List (String × DriveMode) :=
  [("default", .standard), ("sport", .sport), ("eco", .eco)]

def modeNamed? (name : String) : Option DriveMode := modes.lookup name

-- A headed table can only be a mode in a text that has no section but this one.
def mode? (sections : List Section) : Value → Option DriveMode
  | .string name => modeNamed? name
  | .table .braced [(name, .table _ [])] => modeNamed? name
  | .table .headed _ =>
      match sections with
      | [⟨path, _, []⟩] => path.getLast?.bind modeNamed?
      | _ => none
  | _ => none

def mpc? : Value → Option (MpcParams Float)
  | .table _ entries => do
      return {
        followingGap := ← field entries "following_distance_s" gap? standard.followingGap
        useTraffic := ← field entries "use_traffic_level" flag? standard.useTraffic
        verbose := ← field entries "verbose" flag? standard.verbose
        solverBudget := ← field entries "solver_budget_s" number? standard.solverBudget }
  | .number .date => some standard
  | .array items =>
      if 4 < items.length then none
      else do
        return {
          followingGap := ← at? items 0 gap? standard.followingGap
          useTraffic := ← at? items 1 flag? standard.useTraffic
          verbose := ← at? items 2 flag? standard.verbose
          solverBudget := ← at? items 3 number? standard.solverBudget }
  | _ => none
where
  standard : MpcParams Float := .standard
  gap? (value : Value) : Option (Option Float) := (number? value).map some
  at? {β : Type} (items : List Value) (index : Nat) (read : Value → Option β) (standard : β) :
      Option β :=
    match items[index]? with
    | some value => read value
    | none => some standard

def ofSections? (sections : List Section) : Option (Params Float) := do
  let entries ← Toml.table sections
  return {
    mode := ← field entries "drive_mode" (mode? sections) standard.mode
    followLimits := ← field entries "limit_set_speed" flag? standard.followLimits
    limitOffset := ← field entries "speed_limit_offset_ms" number? standard.limitOffset
    warnWhileOff := ← field entries "fcw_enabled" flag? standard.warnWhileOff
    brakeFactor := ← field entries "brake_factor" number? standard.brakeFactor
    steerRatio := ← field entries "steer_ratio" number? standard.steerRatio
    wheelbase := ← field entries "wheelbase_m" number? standard.wheelbase
    startAccel := ← field entries "start_accel_mss" number? standard.startAccel
    startSpeed := ← field entries "min_can_speed_ms" number? standard.startSpeed
    mpc := ← field entries "mpc" mpc? standard.mpc }
where
  standard : Params Float := .standard

def parse (text : String) : Except LoadError (Params Float) :=
  match (Toml.sections text).bind ofSections? with
  | some params => .ok params
  | none => .error .malformed

def load (disk : Disk) (root : Option Path) (name : String) : Except LoadError (Params Float) :=
  match root with
  | none => .error .rootNotSet
  | some folder =>
      match disk.readText [] ((folder.join ⟨false, ["params"]⟩).join (.ofText name)) with
      | .ok text => parse text
      | .error _ => .error .unreadable

end Params
end Headway
