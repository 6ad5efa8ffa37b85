import Headway.Scalar

-- Speeds are in m/s, accelerations in m/s², angles in degrees, times in seconds and distances in metres.
namespace Headway
open Scalar
variable {α : Type}

structure Ego (α : Type) where
  speed : α
  accel : α
  steeringAngle : α
  leftBlinker : Bool
  rightBlinker : Bool
  brakePressed : Bool
  gasPressed : Bool
deriving Repr

def Ego.moving [Scalar α] (speed : α) : Ego α :=
  ⟨speed, 0.0, 0.0, false, false, false, false⟩

def Ego.signalling (ego : Ego α) : Bool :=
  ego.leftBlinker || ego.rightBlinker

inductive ControlMode where
  | off
  | pid
  | stopping
  | starting
deriving Repr, DecidableEq

def ControlMode.engaged : ControlMode → Bool
  | .pid | .stopping => true
  | .off | .starting => false

inductive DriveMode where
  | standard
  | sport
  | eco
deriving Repr, DecidableEq

def DriveMode.label : DriveMode → String
  | .standard => "dynamic"
  | .sport => "sport"
  | .eco => "eco"

structure Phantom (α : Type) where
  active : Bool
  speed : α
  linkLost : Bool
deriving Repr, DecidableEq

def Phantom.active? (phantom : Option (Phantom α)) : Option (Phantom α) :=
  phantom.filter (·.active)

end Headway
