import Headway.Proofs.Script.Schedule

-- Polls of a scenario script, one after the other and at any times. In an orderly script the time of a command alone
-- tells which poll hands it out, and what a poll leaves is orderly again.
namespace Headway
open Scalar
variable {α : Type}

theorem prefix_exact {β : Type} {p : β → Bool} {entries : List β}
    (closed : entries.Pairwise fun a b => p b = true → p a = true) :
    entries.takeWhile p = entries.filter p ∧ entries.dropWhile p = entries.filter (!p ·) := by
  induction closed with
  | nil => exact ⟨rfl,rfl⟩
  | @cons first rest above _ ih =>
    cases member : p first with
    | true => simpa [member] using ih
    | false =>
      have outside : ∀ b ∈ rest, p b = false := by
        intro b later
        by_contra inside
        rw [above b later (by simpa using inside)] at member
        cases member
      have front : rest.filter p = [] := by simpa using outside
      have back : rest.filter (!p ·) = rest := by simpa using outside
      simp [member,front,back]

def Due.batch : Due α → List (Command α)
  | .commands batch => batch
  | _ => []

namespace Script

def commands (script : Script α) : List (Command α) := script.pending.map (·.command)

theorem commands_length (script : Script α) : script.commands.length = script.length := List.length_map _

def those (script : Script α) (chosen : Scheduled α → Bool) : List (Command α) :=
  (script.pending.filter chosen).map (·.command)

theorem those_congr {script : Script α} {chosen chosen' : Scheduled α → Bool}
    (same : ∀ entry ∈ script.pending, chosen entry = true ↔ chosen' entry = true) :
    script.those chosen = script.those chosen' := by
  unfold those
  rw [List.filter_congr fun entry member => Bool.eq_iff_iff.mpr (same entry member)]

theorem those_nil {script : Script α} {chosen : Scheduled α → Bool} :
    script.those chosen = [] ↔ ∀ entry ∈ script.pending, ¬ chosen entry = true := by
  rw [those,List.map_eq_nil_iff,List.filter_eq_nil_iff]

variable [Scalar α]

def after (script : Script α) (times : List α) : Script α := times.foldl (fun script now => (script.poll now).2) script

def answers (script : Script α) : List α → List (Due α)
  | [] => []
  | now :: rest => (script.poll now).1 :: (script.poll now).2.answers rest

def returned (script : Script α) (times : List α) : List (Command α) := (script.answers times).flatMap (·.batch)

def latest? : List α → Option α
  | [] => none
  | first :: rest => some (rest.foldl greater first)

inductive Polled (script : Script α) (now : α) : Due α → Script α → Prop where
  | finished : script.pending = [] → Polled script now .finished script
  | nothing : script.pending ≠ [] → script.pending.takeWhile (isDue now) = [] → Polled script now .nothing script
  | commands : script.pending.takeWhile (isDue now) ≠ [] →
      Polled script now (.commands ((script.pending.takeWhile (isDue now)).map (·.command)))
        ⟨script.pending.dropWhile (isDue now)⟩

theorem poll_cases (script : Script α) (now : α) : Polled script now (script.poll now).1 (script.poll now).2 := by
  obtain ⟨pending⟩ := script
  unfold poll
  cases pending with
  | nil => exact .finished rfl
  | cons first rest =>
    dsimp only
    cases due : (first :: rest).takeWhile (isDue now) with
    | nil => exact .nothing nofun due
    | cons head tail =>
      have polled : Polled ⟨first :: rest⟩ now _ _ := .commands (by rw [due]; exact nofun)
      rwa [due] at polled

theorem poll_exact (script : Script α) (now : α) :
    (script.poll now).1.batch = (script.pending.takeWhile (isDue now)).map (·.command) ∧
      (script.poll now).2.pending = script.pending.dropWhile (isDue now) := by
  have polled := script.poll_cases now
  generalize script.poll now = answer at polled ⊢
  obtain ⟨due,left⟩ := answer
  dsimp only at polled ⊢
  have whole := List.takeWhile_append_dropWhile (p := isDue now) (l := script.pending)
  cases polled with
  | finished drained => simp [drained,Due.batch]
  | nothing _ early =>
    rw [early] at whole ⊢
    exact ⟨rfl,whole.symm⟩
  | commands => exact ⟨rfl,rfl⟩

theorem poll_finished (script : Script α) (now : α) : (script.poll now).1 = .finished ↔ script.pending = [] := by
  have polled := script.poll_cases now
  generalize script.poll now = answer at polled ⊢
  obtain ⟨due,left⟩ := answer
  cases polled with
  | finished drained => exact iff_of_true rfl drained
  | nothing remaining => exact iff_of_false nofun remaining
  | commands due =>
    refine iff_of_false nofun ?_
    intro drained
    rw [drained] at due
    exact due rfl

theorem poll_nothing (script : Script α) (now : α) :
    (script.poll now).1 = .nothing ↔ script.pending ≠ [] ∧ (script.poll now).1.batch = [] := by
  have polled := script.poll_cases now
  generalize script.poll now = answer at polled ⊢
  obtain ⟨due,left⟩ := answer
  cases polled with
  | finished drained => exact iff_of_false nofun fun ⟨remaining,_⟩ => remaining drained
  | nothing remaining early => exact iff_of_true rfl ⟨remaining,rfl⟩
  | commands due => exact iff_of_false nofun fun ⟨_,empty⟩ => due (List.map_eq_nil_iff.mp empty)

theorem poll_whole (script : Script α) (now : α) :
    (script.poll now).1.batch ++ (script.poll now).2.commands = script.commands := by
  obtain ⟨batch,left⟩ := script.poll_exact now
  unfold commands
  rw [batch,left,← List.map_append,List.takeWhile_append_dropWhile]

-- Nothing gets lost, and nothing is handed out twice.
theorem returned_whole (script : Script α) (times : List α) :
    script.returned times ++ (script.after times).commands = script.commands := by
  induction times generalizing script with
  | nil => rfl
  | cons now rest ih =>
    rw [← script.poll_whole now,← ih (script.poll now).2]
    exact List.append_assoc _ _ _

theorem answers_append (script : Script α) (times : List α) (now : α) :
    script.answers (times ++ [now]) = script.answers times ++ [((script.after times).poll now).1] := by
  induction times generalizing script with
  | nil => rfl
  | cons first rest ih => exact congrArg ((script.poll first).1 :: ·) (ih (script.poll first).2)

theorem returned_all (script : Script α) (times : List α) :
    script.returned times = script.commands ↔ (script.after times).pending = [] := by
  rw [← script.returned_whole times,eq_comm,List.append_right_eq_self]
  exact List.map_eq_nil_iff

section Order
variable [Ordered α] {script : Script α}

theorem due_before {first second : Scheduled α} {now : α} (ordered : first.time ≤ second.time)
    (due : isDue now second = true) : isDue now first = true := by
  unfold isDue at due ⊢
  simp only [Bool.not_eq_true',decide_eq_false_iff_not] at due ⊢
  exact fun early => due (Ordered.lt_of_lt_of_le early ordered)

theorem due_exact {now : α} {entry : Scheduled α} (number : isNaN now = false) (timed : isNaN entry.time = false) :
    isDue now entry = true ↔ entry.time ≤ now := by
  unfold isDue
  rw [Bool.not_eq_true',decide_eq_false_iff_not]
  exact ⟨Ordered.le_of_not_lt timed number,Ordered.not_lt_of_le⟩

theorem Orderly.batch (orderly : script.Orderly) (now : α) :
    (script.poll now).1.batch = script.those (isDue now) := by
  rw [(script.poll_exact now).1,(prefix_exact (orderly.ordered.imp due_before)).1]
  rfl

theorem Orderly.left (orderly : script.Orderly) (now : α) :
    (script.poll now).2.pending = script.pending.filter (!isDue now ·) := by
  rw [(script.poll_exact now).2]
  exact (prefix_exact (orderly.ordered.imp due_before)).2

theorem Orderly.after (orderly : script.Orderly) (times : List α) :
    (script.after times).pending = script.pending.filter fun entry => !times.any (isDue · entry) := by
  induction times generalizing script with
  | nil => simp [Script.after]
  | cons now rest ih =>
    have polled := ih (orderly.of_filter (orderly.left now))
    rw [orderly.left,List.filter_filter] at polled
    refine polled.trans ?_
    congr 1
    funext entry
    rw [List.any_cons,Bool.not_or,Bool.and_comm]

theorem Orderly.next (orderly : script.Orderly) (times : List α) (now : α) :
    ((script.after times).poll now).1.batch =
      script.those fun entry => isDue now entry && !times.any (isDue · entry) := by
  rw [(orderly.of_filter (orderly.after times)).batch,those,orderly.after,List.filter_filter]
  rfl

-- What was handed out and what is left are the two parts of the script, so the one is told by the other.
theorem Orderly.returned (orderly : script.Orderly) (times : List α) :
    script.returned times = script.those fun entry => times.any (isDue · entry) := by
  have closed : script.pending.Pairwise fun a b =>
      times.any (isDue · b) = true → times.any (isDue · a) = true := by
    refine orderly.ordered.imp ?_
    intro a b ordered due
    obtain ⟨now,member,due⟩ := List.any_eq_true.mp due
    exact List.any_eq_true.mpr ⟨now,member,due_before ordered due⟩
  obtain ⟨taken,dropped⟩ := prefix_exact closed
  apply (List.append_left_inj (script.after times).commands).mp
  rw [script.returned_whole]
  unfold those commands
  rw [orderly.after,← List.map_append,← taken,← dropped,List.takeWhile_append_dropWhile]

-- Which polls have a command behind them, in terms of its time and theirs.
theorem passed_exact {times : List α} {entry : Scheduled α} (numbers : ∀ time ∈ times, isNaN time = false)
    (timed : isNaN entry.time = false) :
    times.any (isDue · entry) = true ↔ ∃ time ∈ times, entry.time ≤ time := by
  rw [List.any_eq_true]
  constructor
  · rintro ⟨time,member,due⟩
    exact ⟨time,member,(due_exact (numbers time member) timed).mp due⟩
  · rintro ⟨time,member,bound⟩
    exact ⟨time,member,(due_exact (numbers time member) timed).mpr bound⟩

theorem latest_exact {times : List α} {bound : α} (numbers : ∀ time ∈ times, isNaN time = false) :
    (∃ top ∈ latest? times, bound ≤ top) ↔ ∃ time ∈ times, bound ≤ time := by
  cases times with
  | nil => simp [latest?]
  | cons first rest =>
    simp only [latest?,Option.mem_def,Option.some.injEq,exists_eq_left']
    induction rest generalizing first with
    | nil => simp
    | cons second rest ih =>
      have number := numbers first (.head _)
      have number' := numbers second (.tail _ (.head _))
      rw [List.foldl_cons,ih,List.exists_mem_cons_iff,Ordered.le_greater_exact number number']
      · simp [or_assoc]
      · intro time member
        rcases List.mem_cons.mp member with rfl | member
        · exact Ordered.greater_number (.inl number)
        · exact numbers time (.tail _ (.tail _ member))

end Order

-- One more poll, behind polls at these times. The commands handed out by then stand in front, those that are left behind
-- them, and the next batch is of the commands for which no earlier poll was late enough.
structure Serves (script : Script α) (times : List α) (now : α) : Prop where
  whole : script.returned times ++ (script.after times).commands = script.commands
  upTo : script.returned times = script.those fun entry => ∃ top ∈ latest? times, entry.time ≤ top
  counted : (script.returned times).length + (script.after times).length = script.length
  next : script.answers (times ++ [now]) = script.answers times ++ [((script.after times).poll now).1]
  batch : ((script.after times).poll now).1.batch =
    script.those fun entry => entry.time ≤ now ∧ ∀ time ∈ times, ¬ entry.time ≤ time
  finished : ((script.after times).poll now).1 = .finished ↔ script.returned times = script.commands
  nothing : ((script.after times).poll now).1 = .nothing ↔ script.returned times ≠ script.commands ∧
    ∀ entry ∈ script.pending, entry.time ≤ now → ∃ time ∈ times, entry.time ≤ time

theorem polls_served {text : String} {script : Script Float} (accepted : parse text = .ok script)
    {times : List Float} (numbers : ∀ time ∈ times, time.isNaN = false) {now : Float} (number : now.isNaN = false) :
    List.Forall₂ Statement.Reads (Statement.all text.toList) script.pending ∧ script.Serves times now := by
  refine ⟨(parse_exact.mp accepted).1.reads,?_⟩
  have orderly := parse_orderly accepted
  have passed (entry) (member : entry ∈ script.pending) :
      times.any (isDue · entry) = true ↔ ∃ time ∈ times, entry.time ≤ time :=
    passed_exact numbers (orderly.numbers entry member)
  have batch : ((script.after times).poll now).1.batch =
      script.those fun entry => entry.time ≤ now ∧ ∀ time ∈ times, ¬ entry.time ≤ time := by
    rw [orderly.next]
    apply those_congr
    intro entry member
    rw [Bool.and_eq_true,Bool.not_eq_true',← Bool.not_eq_true,passed entry member,
      due_exact number (orderly.numbers entry member)]
    simp
  refine ⟨script.returned_whole times,?_,?_,script.answers_append times now,batch,?_,?_⟩
  · rw [orderly.returned]
    apply those_congr
    intro entry member
    rw [passed entry member,decide_eq_true_iff,latest_exact numbers]
  · rw [← commands_length,← commands_length,← List.length_append,script.returned_whole]
  · rw [poll_finished,returned_all]
  · rw [poll_nothing,Ne,← returned_all,batch,those_nil]
    simp

def braking : String :=
  "0.0: \x7b\"type\": \"ENGAGE\"\x7d;\n" ++ "0.5: \x7b\"type\": \"DISENGAGE\"\x7d;\n" ++
    "0.5: \x7b\"type\": \"ENGAGE\"\x7d;\n" ++ "2.0: \x7b\"type\": \"DISENGAGE\"\x7d;"

theorem braking_served : ∃ script, parse braking = .ok script ∧ script.length = 4 ∧
    List.Forall₂ Statement.Reads (Statement.all braking.toList) script.pending ∧ script.Serves [0.5,0.25] 1.0 := by
  have accepted : (parse braking).toOption.map length = some 4 := by decide +kernel
  cases read : parse braking with
  | error cause =>
    rw [read] at accepted
    cases accepted
  | ok script =>
    rw [read] at accepted
    exact ⟨script,rfl,Option.some.inj accepted,polls_served read (by decide) (by decide)⟩

end Script
end Headway
