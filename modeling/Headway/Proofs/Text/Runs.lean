import Headway.Text.Class

-- Runs of characters of one kind, and what tells digits from white space.
namespace Headway.Text

def Ends (p : Char → Bool) (rest : List Char) : Prop := ∀ c ∈ rest.head?, p c = false

section Runs
variable {p : Char → Bool} {run rest : List Char}

@[simp] theorem ends_nil : Ends p [] := nofun

@[simp] theorem ends_cons {c : Char} : Ends p (c :: rest) ↔ p c = false := by simp [Ends]

theorem ends_append (none : ∀ c ∈ run, p c = false) (ends : Ends p rest) : Ends p (run ++ rest) := by
  cases run with
  | nil => exact ends
  | cons c run => exact ends_cons.mpr (none c (.head _))

theorem ends_dropWhile (cs : List Char) : Ends p (cs.dropWhile p) := by
  intro c first
  have stopped := List.head?_dropWhile_not p cs
  rw [Option.mem_def.mp first] at stopped
  exact stopped

theorem takeWhile_nil (ends : Ends p rest) : rest.takeWhile p = [] := by
  cases rest with
  | nil => rfl
  | cons c rest => simp [ends_cons.mp ends]

theorem dropWhile_self (ends : Ends p rest) : rest.dropWhile p = rest := by
  cases rest with
  | nil => rfl
  | cons c rest => simp [ends_cons.mp ends]

theorem takeWhile_run (all : ∀ c ∈ run, p c = true) (ends : Ends p rest) : (run ++ rest).takeWhile p = run := by
  rw [List.takeWhile_append_of_pos all,takeWhile_nil ends,List.append_nil]

theorem dropWhile_run (all : ∀ c ∈ run, p c = true) (ends : Ends p rest) : (run ++ rest).dropWhile p = rest := by
  rw [List.dropWhile_append_of_pos all,dropWhile_self ends]

theorem exists_run (p : Char → Bool) (cs : List Char) :
    ∃ run rest, cs = run ++ rest ∧ (∀ c ∈ run, p c = true) ∧ Ends p rest :=
  ⟨_,_,List.takeWhile_append_dropWhile.symm,List.all_eq_true.mp List.all_takeWhile,ends_dropWhile cs⟩

theorem head_any : rest.head?.any p = true ↔ ¬ Ends p rest := by cases rest <;> simp

end Runs

end Headway.Text
