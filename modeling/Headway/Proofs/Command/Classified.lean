import Headway.Command
import Headway.Proofs.Json.Grammar

-- What becomes of a command's text: which error it is answered with, or which command it gives.
namespace Headway

namespace Json
variable {json value : Json} {name : String}

-- The same value, numbers compared as the doubles they are read to.
inductive Same : Json → Json → Prop where
  | null : Same .null .null
  | bool (b : Bool) : Same (.bool b) (.bool b)
  | number {m n : Json.Number} (equal : m.toFloat = n.toFloat) : Same (.number m) (.number n)

-- What an object has under a name. Of several fields with that name the last one counts.
inductive Holds : Json → String → Json → Prop where
  | last {before after : List (String × Json)} {name : String} {value : Json}
      (others : ∀ field ∈ after, field.1 ≠ name) : Holds (.object (before ++ (name,value) :: after)) name value

def Lacks (json : Json) (name : String) : Prop := ∀ value, ¬ Holds json name value

theorem field?_exact : json.field? name = some value ↔ Holds json name value := by
  constructor
  · intro found
    cases json with
    | object fields =>
      obtain ⟨⟨_,_⟩,last,rfl⟩ := Option.map_eq_some_iff.mp found
      obtain ⟨named,after,before,split,others⟩ := List.find?_eq_some_iff_append.mp last
      obtain rfl := of_decide_eq_true named
      rw [← List.reverse_reverse fields,split]
      simp only [List.reverse_append,List.reverse_cons,List.append_assoc,List.singleton_append]
      exact .last fun field member => by simpa using others field (List.mem_reverse.mp member)
    | null | bool _ | number _ | string _ | array _ => cases found
  · rintro ⟨others⟩
    unfold field?
    simp only [List.reverse_append,List.reverse_cons,List.append_assoc,List.find?_append]
    have none (after : List (String × Json)) (others : ∀ field ∈ after, field.1 ≠ name) :
        after.reverse.find? (·.1 = name) = none := by simpa using others
    simp [none _ others]

theorem field?_none : json.field? name = none ↔ Lacks json name := by
  rw [Option.eq_none_iff_forall_ne_some]
  exact forall_congr' fun _ => not_congr field?_exact

end Json

namespace CommandType

def name : CommandType → String
  | .engage => "ENGAGE"
  | .disengage => "DISENGAGE"
  | .setCruise => "SET_CRUISE"
  | .spawnLead => "SPAWN_LEAD"
  | .leadAccel => "LEAD_ACCEL"
  | .removeLead => "REMOVE_LEAD"
  | .setBlinkers => "SET_BLINKER"
  | .setSteering => "SET_STEERING"
  | .setLimit => "SET_SPEED_LIMIT"
  | .setLimitAhead => "SET_SPEED_LIMIT_AHEAD"
  | .clearLimitAhead => "CLEAR_SPEED_LIMIT_AHEAD"
  | .setCurvature => "SET_CURVATURE"
  | .clearCurvature => "CLEAR_CURVATURE"
  | .phantom => "PHANTOM"
  | .brake => "BRAKE"
  | .forceDecel => "FORCE_DECEL"

def bare : List CommandType := [.engage,.disengage,.removeLead,.clearLimitAhead,.clearCurvature]

-- The fields that a payload may leave out, and what then stands for them.
def defaults : CommandType → List (String × Json)
  | .spawnLead => [("a_lead_mss",Command.number 0.0)]
  | .setSteering => [("angle_later_deg",.null)]
  | .phantom => [("lost_connection",.bool false)]
  | _ => []

variable {type : CommandType} {name : String}

-- The tags, the list of those without a payload and the list of those that are known all tell of the same names.
theorem tag_exact (type : CommandType) : type.tag = ⟨type.name⟩ := by cases type <;> rfl

theorem ofTag?_exact : ofTag? ⟨name⟩ = some type ↔ type.name = name := by
  constructor
  · intro found
    have same : type.tag = ⟨name⟩ := by simpa using List.find?_some found
    rw [tag_exact] at same
    exact congrArg CommandTag.name same
  · rintro rfl
    cases type <;> rfl

theorem withoutPayload_exact (type : CommandType) :
    CommandTag.withoutPayload.contains type.name = decide (type ∈ bare) := by cases type <;> rfl

theorem isKnown_exact : CommandTag.isKnown ⟨name⟩ = true ↔ ∃ type : CommandType, type.name = name := by
  have tables : CommandTag.isKnown ⟨name⟩ =
      ((bare.map CommandType.name).contains name || ((all.filter (· ∉ bare)).map CommandType.name).contains name) := rfl
  rw [tables,Bool.or_eq_true,List.contains_iff_mem,List.contains_iff_mem,List.mem_map,List.mem_map]
  constructor
  · rintro (⟨type,_,named⟩ | ⟨type,_,named⟩)
    all_goals exact ⟨type,named⟩
  · rintro ⟨type,rfl⟩
    by_cases listed : type ∈ bare
    · exact .inl ⟨type,listed,rfl⟩
    · exact .inr ⟨type,List.mem_filter.mpr ⟨by cases type <;> decide,decide_eq_true listed⟩,rfl⟩

end CommandType

namespace Command
variable {payload : Json} {name : String}

def Given (payload : Json) (field : String × Json) : Prop :=
  ∃ value, payload.Holds field.1 value ∧ Json.Same value field.2

def Omitted (type : CommandType) (payload : Json) (field : String × Json) : Prop :=
  payload.Lacks field.1 ∧ field ∈ type.defaults

-- A payload that stands for a command: it holds every field of it, or leaves it out where the command has its default.
-- What other fields it has makes no difference.
def Carries (payload : Json) (command : Command Float) : Prop :=
  ∀ field ∈ command.payload, Given payload field ∨ Omitted command.type payload field

theorem float?_exact {value : Json} {x : Float} : value.float? = some x ↔ Json.Same value (number x) := by
  constructor
  · intro read
    cases value <;> cases read
    exact .number rfl
  · rintro ⟨⟩
    simp_all [Json.float?,Json.Number.toFloat]

theorem bool?_exact {value : Json} {b : Bool} : value.bool? = some b ↔ Json.Same value (.bool b) := by
  constructor
  · intro read
    cases value <;> cases read
    exact .bool b
  · rintro ⟨⟩
    rfl

theorem given_exact {field : String × Json} :
    Given payload field ↔ ∃ value, payload.field? field.1 = some value ∧ Json.Same value field.2 := by
  unfold Given
  simp only [Json.field?_exact]

section Reader
variable {β : Type} {read : Json → Option β} {made : β → Json} {x default : β}
  (exactly : ∀ {value x}, read value = some x ↔ Json.Same value (made x))
include exactly

theorem required_exact : (payload.field? name).bind read = some x ↔ Given payload (name,made x) := by
  rw [given_exact,Option.bind_eq_some_iff]
  simp only [exactly]

theorem defaulted_exact : (payload.field? name).elim (some default) read = some x ↔
    Given payload (name,made x) ∨ payload.Lacks name ∧ x = default := by
  rw [given_exact,← Json.field?_none]
  cases payload.field? name with
  | none => simp [eq_comm]
  | some value => simp [exactly]

end Reader

theorem number?_exact {x : Float} : number? payload name = some x ↔ Given payload (name,number x) :=
  required_exact float?_exact

theorem flag?_exact {b : Bool} : flag? payload name = some b ↔ Given payload (name,.bool b) :=
  required_exact bool?_exact

theorem numberOr_exact {x default : Float} : numberOr payload name default = some x ↔
    Given payload (name,number x) ∨ payload.Lacks name ∧ x = default := by
  rw [← defaulted_exact float?_exact]
  unfold numberOr
  cases payload.field? name <;> rfl

theorem flagOr_exact {b default : Bool} : flagOr payload name default = some b ↔
    Given payload (name,.bool b) ∨ payload.Lacks name ∧ b = default := by
  rw [← defaulted_exact bool?_exact]
  unfold flagOr
  cases payload.field? name <;> rfl

theorem optionalNumber_exact {x : Option Float} : optionalNumber payload name = some x ↔
    Given payload (name,(x.map number).getD .null) ∨ payload.Lacks name ∧ x = none := by
  rw [given_exact,← Json.field?_none]
  unfold optionalNumber
  cases payload.field? name with
  | none => simp [eq_comm]
  | some value =>
    cases value with
    | null =>
      cases x with
      | none => simp [Json.Same.null]
      | some x => simp [← float?_exact,Json.float?]
    | bool _ | number _ | string _ | array _ | object _ =>
      cases x with
      | none =>
        simp only [Option.map_none,Option.getD_none,Json.float?]
        constructor
        · intro read
          simp at read
        · rintro (⟨_,found,same⟩ | ⟨absent,_⟩)
          · cases found
            cases same
          · cases absent
      | some x => simp [← float?_exact]

section Form
variable {type : CommandType} {read : Json → Option (Command Float)} {command : Command Float}

theorem number_inj {x y : Float} : number x = number y ↔ x = y := by simp [number]

theorem later_null {x : Option Float} : (x.map number).getD .null = .null ↔ x = none := by
  cases x <;> simp [number]

theorem type_of_read (form : form type = .withPayload read) (found : read payload = some command) : command.type = type := by
  cases type <;> cases form
  all_goals
    simp only [Option.bind_eq_bind,Option.bind_eq_some_iff,Option.pure_def,Option.some.injEq] at found
  case setCruise.refl | leadAccel.refl | setLimit.refl | brake.refl | forceDecel.refl =>
    obtain ⟨_,_,rfl⟩ := found
    rfl
  case setBlinkers.refl | setSteering.refl | setLimitAhead.refl | setCurvature.refl =>
    obtain ⟨_,_,_,_,rfl⟩ := found
    rfl
  case spawnLead.refl | phantom.refl =>
    obtain ⟨_,_,_,_,_,_,rfl⟩ := found
    rfl

theorem read_exact (form : form type = .withPayload read) : read payload = some command ↔
    command.type = type ∧ Carries payload command := by
  by_cases same : command.type = type
  · subst same
    cases command <;> cases form
    all_goals
      simp only [Option.bind_eq_bind,Option.bind_eq_some_iff,number?_exact,flag?_exact,numberOr_exact,flagOr_exact,
        optionalNumber_exact,Option.pure_def,Option.some.injEq]
      simp only [Carries,Command.payload,Omitted,CommandType.defaults,Command.type,List.forall_mem_cons]
      grind [number_inj,later_null]
  · exact ⟨fun found => absurd (type_of_read form found) same,fun both => absurd both.1 same⟩

theorem form_bare : form type = .bare command ↔ type ∈ CommandType.bare ∧ command.type = type := by
  constructor
  · intro form
    cases type <;> cases form
    all_goals exact ⟨by decide,rfl⟩
  · rintro ⟨bare,rfl⟩
    cases command <;> first | rfl | exact absurd bare (by simp [Command.type,CommandType.bare])

theorem form_full : (∃ read, form type = .withPayload read) ↔ type ∉ CommandType.bare := by
  cases type <;> simp [form,CommandType.bare]

theorem bare_some (bare : type ∈ CommandType.bare) : ∃ command, form type = .bare command := by
  cases form : form type with
  | bare command => exact ⟨command,rfl⟩
  | withPayload read => exact absurd bare (form_full.mp ⟨read,form⟩)

theorem bare_filled (content : Option Json) :
    (Form.bare command).fill? content = if content.all Json.isNull then some command else none := by
  rcases content with _ | payload
  · rfl
  · cases payload <;> rfl

theorem read_null (form : form type = .withPayload read) : read .null = none := by
  cases type <;> cases form <;> rfl

end Form

section Classes
variable {json : Json} {result : Except CommandError (Command Float)}

def Unfilled (json : Json) : Prop := ∀ payload, json.Holds "payload" payload → payload = .null

def Filled (json payload : Json) : Prop := json.Holds "payload" payload ∧ payload ≠ .null

theorem unfilled_exact : Unfilled json ↔ ¬ ∃ payload, Filled json payload := by
  unfold Unfilled Filled
  simp

-- The class of a text that is JSON. Its type decides first, whatever the payload.
inductive Classed (json : Json) : Except CommandError (Command Float) → Prop where
  | untyped (untyped : ∀ name, ¬ json.Holds "type" (.string name)) : Classed json (.error .untyped)
  | unknownType {name : String} (named : json.Holds "type" (.string name))
      (unknown : ∀ type : CommandType, type.name ≠ name) : Classed json (.error (.unknownType ⟨name⟩))
  | bare {command : Command Float} (named : json.Holds "type" (.string command.type.name))
      (bare : command.type ∈ CommandType.bare) (unfilled : Unfilled json) : Classed json (.ok command)
  | overfull {type : CommandType} {payload : Json} (named : json.Holds "type" (.string type.name))
      (bare : type ∈ CommandType.bare) (filled : Filled json payload) :
      Classed json (.error (.invalidPayload ⟨type.name⟩))
  | missing {type : CommandType} (named : json.Holds "type" (.string type.name))
      (full : type ∉ CommandType.bare) (unfilled : Unfilled json) :
      Classed json (.error (.missingPayload ⟨type.name⟩))
  | carried {command : Command Float} {payload : Json} (named : json.Holds "type" (.string command.type.name))
      (full : command.type ∉ CommandType.bare) (filled : Filled json payload) (carries : Carries payload command) :
      Classed json (.ok command)
  | misfilled {type : CommandType} {payload : Json} (named : json.Holds "type" (.string type.name))
      (full : type ∉ CommandType.bare) (filled : Filled json payload)
      (refused : ∀ command : Command Float, command.type = type → ¬ Carries payload command) :
      Classed json (.error (.invalidPayload ⟨type.name⟩))

theorem classes_whole (json : Json) : ∃ result, Classed json result := by
  by_cases typed : ∃ name, json.Holds "type" (.string name)
  · obtain ⟨name,named⟩ := typed
    by_cases known : ∃ type : CommandType, type.name = name
    · obtain ⟨type,rfl⟩ := known
      by_cases filled : ∃ payload, Filled json payload
      · obtain ⟨payload,filled⟩ := filled
        by_cases bare : type ∈ CommandType.bare
        · exact ⟨_,.overfull named bare filled⟩
        · by_cases carried : ∃ command : Command Float, command.type = type ∧ Carries payload command
          · obtain ⟨command,rfl,carries⟩ := carried
            exact ⟨_,.carried named bare filled carries⟩
          · exact ⟨_,.misfilled named bare filled fun command same carries => carried ⟨command,same,carries⟩⟩
      · have unfilled : Unfilled json := unfilled_exact.mpr filled
        by_cases bare : type ∈ CommandType.bare
        · obtain ⟨command,form⟩ := bare_some bare
          obtain ⟨_,rfl⟩ := form_bare.mp form
          exact ⟨_,.bare named bare unfilled⟩
        · exact ⟨_,.missing named bare unfilled⟩
    · exact ⟨_,.unknownType named fun type same => known ⟨type,same⟩⟩
  · exact ⟨_,.untyped fun name named => typed ⟨name,named⟩⟩

theorem typeName?_exact {name : String} : typeName? json = some name ↔ json.Holds "type" (.string name) := by
  unfold typeName?
  rw [Option.bind_eq_some_iff,← Json.field?_exact]
  constructor
  · rintro ⟨value,found,text⟩
    cases value <;> cases text
    exact found
  · intro found
    exact ⟨_,found,rfl⟩

-- A payload that is missing cannot be told from null.
theorem Unfilled.found (unfilled : Unfilled json) :
    json.field? "payload" = none ∨ json.field? "payload" = some .null := by
  unfold Unfilled at unfilled
  simp only [← Json.field?_exact] at unfilled
  cases found : json.field? "payload" with
  | none => exact .inl rfl
  | some payload => exact .inr (congrArg some (unfilled payload found))

theorem Filled.found (filled : Filled json payload) : json.field? "payload" = some payload ∧ payload.isNull = false := by
  refine ⟨Json.field?_exact.mpr filled.1,?_⟩
  have some := filled.2
  cases payload <;> first | rfl | exact absurd rfl some

theorem ofTagged?_known {type : CommandType} (named : json.Holds "type" (.string type.name)) :
    ofTagged? json = (form type).fill? (json.field? "payload") := by
  unfold ofTagged?
  rw [typeName?_exact.mpr named]
  simp only [Option.bind_eq_bind,Option.bind_some,CommandType.ofTag?_exact.mpr rfl]

-- With a type that is known, the lists agree on the error that a command is answered with where it cannot be made.
theorem ofJson_known {type : CommandType} (named : json.Holds "type" (.string type.name)) : ofJson json =
    match (form type).fill? (json.field? "payload") with
    | some command => .ok command
    | none => .error (if (json.field? "payload").all Json.isNull && !decide (type ∈ CommandType.bare) then
        .missingPayload ⟨type.name⟩ else .invalidPayload ⟨type.name⟩) := by
  unfold ofJson
  rw [typeName?_exact.mpr named]
  simp only [ofTagged?_known named,CommandType.isKnown_exact.mpr ⟨type,rfl⟩,CommandType.withoutPayload_exact,if_true]
  cases (form type).fill? (json.field? "payload") <;> split <;> rfl

-- And whatever it has for a payload, a type that is none of the names is answered with itself.
theorem ofJson_unknown {name : String} (named : json.Holds "type" (.string name))
    (unknown : ∀ type : CommandType, type.name ≠ name) : ofJson json = .error (.unknownType ⟨name⟩) := by
  have tagless : CommandType.ofTag? ⟨name⟩ = none :=
    Option.eq_none_iff_forall_ne_some.mpr fun type found => unknown type (CommandType.ofTag?_exact.mp found)
  have untagged : ofTagged? json = none := by
    unfold ofTagged?
    rw [typeName?_exact.mpr named]
    simp only [Option.bind_eq_bind,Option.bind_some,tagless,Option.bind_none]
  have unlisted : CommandTag.isKnown ⟨name⟩ = false := by
    rw [← Bool.not_eq_true,CommandType.isKnown_exact]
    rintro ⟨type,same⟩
    exact unknown type same
  unfold ofJson
  rw [typeName?_exact.mpr named]
  simp only [untagged,unlisted]
  split <;> rfl

theorem Classed.answer (classed : Classed json result) : ofJson json = result := by
  cases classed with
  | untyped untyped =>
    have nameless : typeName? json = none :=
      Option.eq_none_iff_forall_ne_some.mpr fun name named => untyped name (typeName?_exact.mp named)
    unfold ofJson
    rw [nameless]
  | unknownType named unknown => exact ofJson_unknown named unknown
  | bare named bare unfilled =>
    have form := form_bare.mpr ⟨bare,rfl⟩
    rcases unfilled.found with found | found
    all_goals simp only [ofJson_known named,form,found,Form.fill?]
  | overfull named bare filled =>
    obtain ⟨command,form⟩ := bare_some bare
    obtain ⟨found,some⟩ := filled.found
    simp only [ofJson_known named,form,bare_filled,found,Option.all_some,some,Bool.false_and,Bool.false_eq_true,if_false]
  | missing named full unfilled =>
    obtain ⟨read,form⟩ := form_full.mpr full
    rcases unfilled.found with found | found
    all_goals
      simp only [ofJson_known named,form,found,Form.fill?,Option.bind_none,Option.bind_some,read_null form,Option.all_none,
        Option.all_some,Json.isNull,full,decide_false,Bool.not_false,Bool.and_true,if_true]
  | carried named full filled carries =>
    obtain ⟨read,form⟩ := form_full.mpr full
    have made := (read_exact form).mpr ⟨rfl,carries⟩
    simp only [ofJson_known named,form,Form.fill?,filled.found.1,Option.bind_some,made]
  | @misfilled type payload named full filled refused =>
    obtain ⟨read,form⟩ := form_full.mpr full
    have unread : read payload = none := by
      rw [Option.eq_none_iff_forall_ne_some]
      intro command found
      obtain ⟨same,carries⟩ := (read_exact form).mp found
      exact refused command same carries
    obtain ⟨found,some⟩ := filled.found
    simp only [ofJson_known named,form,Form.fill?,found,Option.bind_some,unread,Option.all_some,some,Bool.false_and,
      Bool.false_eq_true,if_false]

theorem ofJson_exact : ofJson json = result ↔ Classed json result := by
  constructor
  · rintro rfl
    obtain ⟨result,classed⟩ := classes_whole json
    rw [classed.answer]
    exact classed
  · exact Classed.answer

inductive Judged (text : List Char) : Except CommandError (Command Float) → Prop where
  | notJson (none : ∀ json, ¬ Json.Document text json) : Judged text (.error .notJson)
  | json {json : Json} {result : Except CommandError (Command Float)} (document : Json.Document text json)
      (classed : Classed json result) : Judged text result

theorem commands_judged (text : String) (result : Except CommandError (Command Float)) :
    parse text = result ↔ Judged text.toList result := by
  unfold parse read
  cases found : Json.read text.toList with
  | none =>
    have none (json : Json) : ¬ Json.Document text.toList json := by
      rw [← Json.read_exact,found]
      exact nofun
    constructor
    · rintro rfl
      exact .notJson none
    · intro judged
      cases judged with
      | notJson => rfl
      | json document => exact absurd document (none _)
  | some json =>
    have document := Json.read_exact.mp found
    constructor
    · intro answer
      exact .json document (ofJson_exact.mp answer)
    · intro judged
      cases judged with
      | notJson none => exact absurd document (none json)
      | json other classed =>
        have same := Json.read_exact.mpr other
        rw [found] at same
        cases same
        exact classed.answer

def spawning : String :=
  "\x7b\"type\": \"SPAWN_LEAD\", \"payload\": \x7b\"d_rel_m\": 40.0, \"v_lead_ms\": 15.0\x7d\x7d"

theorem spawning_judged : Judged spawning.toList (.ok (.spawnLead 40.0 15.0 0.0)) := by
  apply (commands_judged spawning _).mp
  have made : (parse spawning).toOption = some (.spawnLead 40.0 15.0 0.0) := by decide +kernel
  cases read : parse spawning with
  | error cause =>
    rw [read] at made
    cases made
  | ok command =>
    rw [read] at made
    exact congrArg Except.ok (Option.some.inj made)

end Classes

end Command
end Headway
