import Headway.Car
import Headway.Decimal
import Headway.Json

namespace Headway
variable {α : Type}

inductive Command (α : Type) where
  | engage
  | disengage
  | setCruise (kph : α)
  | spawnLead (distance speed accel : α)
  | leadAccel (accel : α)
  | removeLead
  | setBlinkers (left right : Bool)
  | setSteering (angle : α) (laterAngle : Option α)
  | setLimit (limit : α)
  | setLimitAhead (limit distance : α)
  | clearLimitAhead
  | setCurvature (curvature turnDistance : α)
  | clearCurvature
  | phantom (request : Phantom α)
  | brake (pressed : Bool)
  | forceDecel (active : Bool)
deriving Repr, DecidableEq

inductive CommandType where
  | engage
  | disengage
  | setCruise
  | spawnLead
  | leadAccel
  | removeLead
  | setBlinkers
  | setSteering
  | setLimit
  | setLimitAhead
  | clearLimitAhead
  | setCurvature
  | clearCurvature
  | phantom
  | brake
  | forceDecel
deriving Repr, DecidableEq

namespace CommandType

def all : List CommandType :=
  [.engage, .disengage, .setCruise, .spawnLead, .leadAccel, .removeLead, .setBlinkers, .setSteering,
   .setLimit, .setLimitAhead, .clearLimitAhead, .setCurvature, .clearCurvature, .phantom, .brake,
   .forceDecel]

def variant : CommandType → String
  | .engage => "Engage"
  | .disengage => "Disengage"
  | .setCruise => "SetCruise"
  | .spawnLead => "SpawnLead"
  | .leadAccel => "LeadAccel"
  | .removeLead => "RemoveLead"
  | .setBlinkers => "SetBlinker"
  | .setSteering => "SetSteering"
  | .setLimit => "SetSpeedLimit"
  | .setLimitAhead => "SetSpeedLimitAhead"
  | .clearLimitAhead => "ClearSpeedLimitAhead"
  | .setCurvature => "SetCurvature"
  | .clearCurvature => "ClearCurvature"
  | .phantom => "Phantom"
  | .brake => "Brake"
  | .forceDecel => "ForceDecel"

end CommandType

structure CommandTag where
  name : String
deriving Repr, DecidableEq

namespace CommandTag

-- All in capitals, with a line before each word but the first.
def ofVariant (variant : String) : CommandTag :=
  let letter (c : Char) : List Char := if c.isUpper then ['_', c] else [c.toUpper]
  ⟨String.ofList (variant.toList.take 1 ++ (variant.toList.drop 1).flatMap letter)⟩

def withoutPayload : List String :=
  ["ENGAGE", "DISENGAGE", "REMOVE_LEAD", "CLEAR_SPEED_LIMIT_AHEAD", "CLEAR_CURVATURE"]

def isKnown (tag : CommandTag) : Bool :=
  withoutPayload.contains tag.name ||
    ["SET_CRUISE", "SPAWN_LEAD", "LEAD_ACCEL", "SET_BLINKER", "SET_STEERING", "SET_SPEED_LIMIT",
     "SET_SPEED_LIMIT_AHEAD", "SET_CURVATURE", "PHANTOM", "BRAKE", "FORCE_DECEL"].contains tag.name

end CommandTag

namespace CommandType

def tag (type : CommandType) : CommandTag := .ofVariant type.variant

def ofTag? (tag : CommandTag) : Option CommandType := all.find? (·.tag = tag)

end CommandType

inductive CommandError where
  | notJson
  | untyped
  | unknownType (tag : CommandTag)
  | missingPayload (tag : CommandTag)
  | invalidPayload (tag : CommandTag)
deriving Repr, DecidableEq

def CommandError.message : CommandError → String
  | .notJson => "Command contains invalid JSON"
  | .untyped => "Command has an invalid type (Expected \"type\" to be a string)"
  | .unknownType tag => s!"Command has an invalid type ({tag.name} is not a recognised command type)"
  | .missingPayload tag => s!"Command of type {tag.name} is expected to have a payload but it doesn't"
  | .invalidPayload tag => s!"Command of type {tag.name} has an invalid payload"

namespace Command

-- A field with a default may be left out, but what stands there has to be of its type. Only the coming
-- angle may be null.
def numberOr (payload : Json) (name : String) (default : Float) : Option Float :=
  match payload.field? name with
  | none => some default
  | some value => value.float?

def flagOr (payload : Json) (name : String) (default : Bool) : Option Bool :=
  match payload.field? name with
  | none => some default
  | some value => value.bool?

def optionalNumber (payload : Json) (name : String) : Option (Option Float) :=
  match payload.field? name with
  | none | some .null => some none
  | some value => value.float?.map some

def number? (payload : Json) (name : String) : Option Float :=
  (payload.field? name).bind Json.float?

def flag? (payload : Json) (name : String) : Option Bool :=
  (payload.field? name).bind Json.bool?

inductive Form where
  | bare (command : Command Float)
  | withPayload (read : Json → Option (Command Float))

def form : CommandType → Form
  | .engage => .bare .engage
  | .disengage => .bare .disengage
  | .removeLead => .bare .removeLead
  | .clearLimitAhead => .bare .clearLimitAhead
  | .clearCurvature => .bare .clearCurvature
  | .setCruise => .withPayload fun p => do return .setCruise (← number? p "v_cruise_kph")
  | .spawnLead => .withPayload fun p => do
      return .spawnLead (← number? p "d_rel_m") (← number? p "v_lead_ms") (← numberOr p "a_lead_mss" 0.0)
  | .leadAccel => .withPayload fun p => do return .leadAccel (← number? p "a_lead_mss")
  | .setBlinkers => .withPayload fun p => do return .setBlinkers (← flag? p "left") (← flag? p "right")
  | .setSteering => .withPayload fun p => do
      return .setSteering (← number? p "steering_angle_deg") (← optionalNumber p "angle_later_deg")
  | .setLimit => .withPayload fun p => do return .setLimit (← number? p "speed_limit_ms")
  | .setLimitAhead => .withPayload fun p => do
      return .setLimitAhead (← number? p "speed_limit_ms") (← number? p "distance_m")
  | .setCurvature => .withPayload fun p => do
      return .setCurvature (← number? p "curvature") (← number? p "dist_to_turn_m")
  | .phantom => .withPayload fun p => do
      return .phantom ⟨← flag? p "status", ← number? p "speed_ms", ← flagOr p "lost_connection" false⟩
  | .brake => .withPayload fun p => do return .brake (← flag? p "pressed")
  | .forceDecel => .withPayload fun p => do return .forceDecel (← flag? p "active")

-- A variant without fields takes a null payload for none.
def Form.fill? : Form → Option Json → Option (Command Float)
  | .bare command, none | .bare command, some .null => some command
  | .bare _, some _ => none
  | .withPayload read, payload => payload.bind read

def typeName? (json : Json) : Option String := (json.field? "type").bind Json.string?

def ofTagged? (json : Json) : Option (Command Float) := do
  let name ← typeName? json
  let type ← CommandType.ofTag? ⟨name⟩
  (form type).fill? (json.field? "payload")

def ofJson (json : Json) : Except CommandError (Command Float) :=
  match typeName? json with
  | none => .error .untyped
  | some name =>
      let tag : CommandTag := ⟨name⟩
      if (json.field? "payload").all Json.isNull && !CommandTag.withoutPayload.contains name then
        match ofTagged? json with
        | some command => .ok command
        | none => .error (if tag.isKnown then .missingPayload tag else .unknownType tag)
      else
        match ofTagged? json with
        | some command => .ok command
        | none => .error (if tag.isKnown then .invalidPayload tag else .unknownType tag)

def read (text : List Char) : Except CommandError (Command Float) :=
  match Json.read text with
  | none => .error .notJson
  | some json => ofJson json

def parse (text : String) : Except CommandError (Command Float) := read text.toList

def type : Command α → CommandType
  | .engage => .engage
  | .disengage => .disengage
  | .setCruise _ => .setCruise
  | .spawnLead .. => .spawnLead
  | .leadAccel _ => .leadAccel
  | .removeLead => .removeLead
  | .setBlinkers .. => .setBlinkers
  | .setSteering .. => .setSteering
  | .setLimit _ => .setLimit
  | .setLimitAhead .. => .setLimitAhead
  | .clearLimitAhead => .clearLimitAhead
  | .setCurvature .. => .setCurvature
  | .clearCurvature => .clearCurvature
  | .phantom _ => .phantom
  | .brake _ => .brake
  | .forceDecel _ => .forceDecel

def number (x : Float) : Json := .number (.real x)

def payload : Command Float → List (String × Json)
  | .engage | .disengage | .removeLead | .clearLimitAhead | .clearCurvature => []
  | .setCruise kph => [("v_cruise_kph", number kph)]
  | .spawnLead distance speed accel =>
      [("d_rel_m", number distance), ("v_lead_ms", number speed), ("a_lead_mss", number accel)]
  | .leadAccel accel => [("a_lead_mss", number accel)]
  | .setBlinkers left right => [("left", .bool left), ("right", .bool right)]
  | .setSteering angle later =>
      [("steering_angle_deg", number angle), ("angle_later_deg", (later.map number).getD .null)]
  | .setLimit limit => [("speed_limit_ms", number limit)]
  | .setLimitAhead limit distance =>
      [("speed_limit_ms", number limit), ("distance_m", number distance)]
  | .setCurvature curvature distance =>
      [("curvature", number curvature), ("dist_to_turn_m", number distance)]
  | .phantom request =>
      [("status", .bool request.active), ("speed_ms", number request.speed),
       ("lost_connection", .bool request.linkLost)]
  | .brake pressed => [("pressed", .bool pressed)]
  | .forceDecel active => [("active", .bool active)]

def toJson (command : Command Float) : Json :=
  .object (("type", .string command.type.tag.name) ::
    match command.payload with
    | [] => []
    | fields => [("payload", .object fields)])

open Decimal.Layout in
def text : Command Float → String
  | .engage => "Engage"
  | .disengage => "Disengage"
  | .setCruise kph => s!"SetCruise \x7b v_cruise_kph: {field.text kph} \x7d"
  | .spawnLead distance speed accel =>
      s!"SpawnLead \x7b d_rel_m: {field.text distance}, v_lead_ms: {field.text speed}, "
        ++ s!"a_lead_mss: {field.text accel} \x7d"
  | .leadAccel accel => s!"LeadAccel \x7b a_lead_mss: {field.text accel} \x7d"
  | .removeLead => "RemoveLead"
  | .setBlinkers left right => s!"SetBlinker \x7b left: {left}, right: {right} \x7d"
  | .setSteering angle later =>
      let shown := match later with
        | some later => s!"Some({field.text later})"
        | none => "None"
      s!"SetSteering \x7b steering_angle_deg: {field.text angle}, angle_later_deg: {shown} \x7d"
  | .setLimit limit => s!"SetSpeedLimit \x7b speed_limit_ms: {field.text limit} \x7d"
  | .setLimitAhead limit distance =>
      s!"SetSpeedLimitAhead \x7b speed_limit_ms: {field.text limit}, distance_m: {field.text distance} \x7d"
  | .clearLimitAhead => "ClearSpeedLimitAhead"
  | .setCurvature curvature distance =>
      s!"SetCurvature \x7b curvature: {field.text curvature}, dist_to_turn_m: {field.text distance} \x7d"
  | .clearCurvature => "ClearCurvature"
  | .phantom request =>
      s!"Phantom \x7b status: {request.active}, speed_ms: {field.text request.speed}, "
        ++ s!"lost_connection: {request.linkLost} \x7d"
  | .brake pressed => s!"Brake \x7b pressed: {pressed} \x7d"
  | .forceDecel active => s!"ForceDecel \x7b active: {active} \x7d"

end Command
end Headway
