import Headway.Proofs.Json.Numeral
import Headway.Proofs.Json.Quoted

-- The texts that are JSON, and that the reader takes them and no others.
namespace Headway.Json
open Text

def Spaced (cs rest : List Char) : Prop := ∃ gap, (∀ c ∈ gap, isSpace c = true) ∧ cs = gap ++ rest

mutual

-- A value at the front of a text, and what follows it. So many arrays and objects may be opened there one in the other.
inductive Spelled : Nat → List Char → Json → List Char → Prop where
  | nullWord {depth : Nat} {rest : List Char} : Spelled depth ('n' :: 'u' :: 'l' :: 'l' :: rest) .null rest
  | trueWord {depth : Nat} {rest : List Char} : Spelled depth ('t' :: 'r' :: 'u' :: 'e' :: rest) (.bool true) rest
  | falseWord {depth : Nat} {rest : List Char} : Spelled depth ('f' :: 'a' :: 'l' :: 's' :: 'e' :: rest) (.bool false) rest
  | number {depth : Nat} {rest : List Char} {v : Number} (n : Numeral) (value : n.value? = some v) :
      Spelled depth (n.text ++ rest) (.number v) rest
  | string {depth : Nat} {cs text rest : List Char} (quoted : Quoted cs text rest) :
      Spelled depth ('"' :: cs) (.string (.ofList text)) rest
  | noItems {depth : Nat} {cs rest : List Char} (empty : Spaced cs (']' :: rest)) :
      Spelled (depth + 1) ('[' :: cs) (.array []) rest
  | array {depth : Nat} {cs rest : List Char} {list : List Json} (items : Items depth cs list rest) :
      Spelled (depth + 1) ('[' :: cs) (.array list) rest
  | noFields {depth : Nat} {cs rest : List Char} (empty : Spaced cs ('}' :: rest)) :
      Spelled (depth + 1) ('{' :: cs) (.object []) rest
  | object {depth : Nat} {cs rest : List Char} {list : List (String × Json)} (fields : Fields depth cs list rest) :
      Spelled (depth + 1) ('{' :: cs) (.object list) rest

inductive Items : Nat → List Char → List Json → List Char → Prop where
  | last {depth : Nat} {cs text behind rest : List Char} {item : Json} (before : Spaced cs text)
      (value : Spelled depth text item behind) (after : Spaced behind (']' :: rest)) : Items depth cs [item] rest
  | more {depth : Nat} {cs text behind later rest : List Char} {item : Json} {list : List Json} (before : Spaced cs text)
      (value : Spelled depth text item behind) (after : Spaced behind (',' :: later))
      (others : Items depth later list rest) : Items depth cs (item :: list) rest

inductive Member : Nat → List Char → String × Json → List Char → Prop where
  | mk {depth : Nat} {cs text name middle behind value rest : List Char} {item : Json} (before : Spaced cs ('"' :: text))
      (quoted : Quoted text name middle) (between : Spaced middle (':' :: behind)) (after : Spaced behind value)
      (spelled : Spelled depth value item rest) : Member depth cs (.ofList name,item) rest

inductive Fields : Nat → List Char → List (String × Json) → List Char → Prop where
  | last {depth : Nat} {cs behind rest : List Char} {field : String × Json} (member : Member depth cs field behind)
      (after : Spaced behind ('}' :: rest)) : Fields depth cs [field] rest
  | more {depth : Nat} {cs behind later rest : List Char} {field : String × Json} {list : List (String × Json)}
      (member : Member depth cs field behind) (after : Spaced behind (',' :: later))
      (others : Fields depth later list rest) : Fields depth cs (field :: list) rest

end

-- A text that is JSON: one value, and white space around it. No number in it is beyond the doubles, no surrogate stands
-- alone, and the arrays and objects that stand one in the other are no more than the limit.
def Document (cs : List Char) (json : Json) : Prop :=
  ∃ text behind, Spaced cs text ∧ Spelled depthLimit text json behind ∧ Spaced behind []

section Spaces
variable {cs rest : List Char}

theorem spaced_skip (cs : List Char) : Spaced cs (skip cs) :=
  ⟨cs.takeWhile isSpace,List.all_eq_true.mp List.all_takeWhile,List.takeWhile_append_dropWhile.symm⟩

theorem skip_spaced (spaced : Spaced cs rest) (ends : Ends isSpace rest) : skip cs = rest := by
  obtain ⟨gap,space,rfl⟩ := spaced
  exact dropWhile_run space ends

theorem skip_to {c : Char} (spaced : Spaced cs (c :: rest)) (visible : isSpace c = false) : skip cs = c :: rest :=
  skip_spaced spaced (ends_cons.mpr visible)

theorem skip_self (ends : Ends isSpace cs) : skip cs = cs := dropWhile_self ends

theorem skip_skip (cs : List Char) : skip (skip cs) = skip cs := skip_self (ends_dropWhile cs)

theorem Spaced.trans {behind : List Char} (first : Spaced cs rest) (second : Spaced rest behind) : Spaced cs behind := by
  obtain ⟨gap,space,rfl⟩ := first
  obtain ⟨more,moreSpace,rfl⟩ := second
  exact ⟨gap ++ more,List.forall_mem_append.mpr ⟨space,moreSpace⟩,(List.append_assoc gap more behind).symm⟩

theorem spaced_of_skip (skipped : skip cs = rest) : Spaced cs rest := skipped ▸ spaced_skip cs

theorem Spaced.length_le (spaced : Spaced cs rest) : rest.length ≤ cs.length := by
  obtain ⟨gap,_,rfl⟩ := spaced
  rw [List.length_append]
  exact Nat.le_add_left _ _

theorem Spaced.ends {p : Char → Bool} (spaced : Spaced cs rest) (space : ∀ c, isSpace c = true → p c = false)
    (ends : Ends p rest) : Ends p cs := by
  obtain ⟨gap,blank,rfl⟩ := spaced
  exact ends_append (fun c member => space c (blank c member)) ends

end Spaces

theorem expect?_exact {word cs rest : List Char} : expect? word cs = some rest ↔ cs = word ++ rest := by
  induction word generalizing cs with
  | nil => simp [expect?]
  | cons w word ih =>
    cases cs with
    | nil => simp [expect?]
    | cons c cs => simp [expect?,ih,@eq_comm _ w c]

-- What the reader finds is spelled there, by induction on the fuel.
section Sound
variable {fuel : Nat}

def ValueSound (fuel : Nat) : Prop := ∀ depth cs json rest, value depth fuel cs = some (json,rest) →
  ∃ text, Spaced cs text ∧ Spelled depth text json rest

def ItemsSound (fuel : Nat) : Prop := ∀ depth acc cs json rest, items depth fuel acc cs = some (json,rest) →
  ∃ list, Items depth cs list rest ∧ json = .array (acc.reverse ++ list)

def FieldsSound (fuel : Nat) : Prop := ∀ depth acc cs json rest, fields depth fuel acc cs = some (json,rest) →
  ∃ list, Fields depth cs list rest ∧ json = .object (acc.reverse ++ list)

theorem Items.spaced {depth : Nat} {cs behind rest : List Char} {list : List Json} (spaced : Spaced cs behind)
    (items : Items depth behind list rest) : Items depth cs list rest := by
  cases items with
  | last before value after => exact .last (spaced.trans before) value after
  | more before value after others => exact .more (spaced.trans before) value after others

theorem Member.spaced {depth : Nat} {cs behind rest : List Char} {field : String × Json} (spaced : Spaced cs behind)
    (member : Member depth behind field rest) : Member depth cs field rest := by
  cases member with
  | mk before quoted between gap spelled => exact .mk (spaced.trans before) quoted between gap spelled

theorem Fields.spaced {depth : Nat} {cs behind rest : List Char} {list : List (String × Json)} (spaced : Spaced cs behind)
    (fields : Fields depth behind list rest) : Fields depth cs list rest := by
  cases fields with
  | last member after => exact .last (member.spaced spaced) after
  | more member after others => exact .more (member.spaced spaced) after others

theorem value_sound (itemsSound : ItemsSound fuel) (fieldsSound : FieldsSound fuel) : ValueSound (fuel + 1) := by
  intro depth cs json rest found
  refine ⟨skip cs,spaced_skip cs,?_⟩
  unfold value at found
  split at found
  · rename_i tail text
    rw [text]
    obtain ⟨⟨word,behind⟩,read,same⟩ := Option.map_eq_some_iff.mp found
    cases same
    obtain ⟨chars,quoted,rfl⟩ := stringRest_some read
    exact .string quoted
  · rename_i tail text
    rw [text]
    cases depth with
    | zero => cases found
    | succ inner =>
      dsimp only at found
      split at found
      · rename_i _ closed
        cases found
        exact .noItems (spaced_of_skip closed)
      · obtain ⟨list,items,rfl⟩ := itemsSound _ _ _ _ _ found
        exact .array (items.spaced (spaced_skip tail))
  · rename_i tail text
    rw [text]
    cases depth with
    | zero => cases found
    | succ inner =>
      dsimp only at found
      split at found
      · rename_i _ closed
        cases found
        exact .noFields (spaced_of_skip closed)
      · obtain ⟨list,fields,rfl⟩ := fieldsSound _ _ _ _ _ found
        exact .object (fields.spaced (spaced_skip tail))
  · rename_i tail text
    obtain ⟨behind,read,same⟩ := Option.map_eq_some_iff.mp found
    cases same
    rw [text,expect?_exact.mp read]
    exact .trueWord
  · rename_i tail text
    obtain ⟨behind,read,same⟩ := Option.map_eq_some_iff.mp found
    cases same
    rw [text,expect?_exact.mp read]
    exact .falseWord
  · rename_i tail text
    obtain ⟨behind,read,same⟩ := Option.map_eq_some_iff.mp found
    cases same
    rw [text,expect?_exact.mp read]
    exact .nullWord
  · obtain ⟨⟨v,behind⟩,read,same⟩ := Option.map_eq_some_iff.mp found
    cases same
    obtain ⟨n,text,amount⟩ := read_some read
    rw [text]
    exact .number n amount

theorem items_sound (valueSound : ValueSound fuel) (itemsSound : ItemsSound fuel) : ItemsSound (fuel + 1) := by
  intro depth acc cs json rest found
  unfold items at found
  split at found
  · cases found
  · rename_i item behind read
    obtain ⟨text,before,spelled⟩ := valueSound _ _ _ _ read
    split at found
    · rename_i later comma
      obtain ⟨list,items,rfl⟩ := itemsSound _ _ _ _ _ found
      exact ⟨item :: list,.more before spelled (spaced_of_skip comma) items,by simp⟩
    · rename_i later closed
      cases found
      exact ⟨[item],.last before spelled (spaced_of_skip closed),by simp⟩
    · cases found

theorem fields_sound (valueSound : ValueSound fuel) (fieldsSound : FieldsSound fuel) : FieldsSound (fuel + 1) := by
  intro depth acc cs json rest found
  unfold fields at found
  split at found
  · rename_i tail opened
    split at found
    · cases found
    · rename_i name middle readName
      obtain ⟨chars,quoted,rfl⟩ := stringRest_some readName
      split at found
      · rename_i behind colon
        split at found
        · cases found
        · rename_i item after read
          obtain ⟨text,gap,spelled⟩ := valueSound _ _ _ _ read
          have member : Member depth cs (.ofList chars,item) after :=
            .mk (spaced_of_skip opened) quoted (spaced_of_skip colon) gap spelled
          split at found
          · rename_i later comma
            obtain ⟨list,fields,rfl⟩ := fieldsSound _ _ _ _ _ found
            exact ⟨(.ofList chars,item) :: list,.more member (spaced_of_skip comma) fields,by simp⟩
          · rename_i later closed
            cases found
            exact ⟨[(.ofList chars,item)],.last member (spaced_of_skip closed),by simp⟩
          · cases found
      · cases found
  · cases found

theorem all_sound (fuel : Nat) : ValueSound fuel ∧ ItemsSound fuel ∧ FieldsSound fuel := by
  induction fuel with
  | zero => exact ⟨nofun,nofun,nofun⟩
  | succ fuel ih =>
    obtain ⟨ofValue,ofItems,ofFields⟩ := ih
    exact ⟨value_sound ofItems ofFields,items_sound ofValue ofItems,fields_sound ofValue ofFields⟩

end Sound
-- The characters with which a value begins. None of them is white space or closes a list.
def isStart (c : Char) : Bool := isAsciiDigit c || ['-','"','[','{','t','f','n'].contains c

theorem isSpace_exact {c : Char} : isSpace c = true ↔ c = ' ' ∨ c = '\n' ∨ c = '\t' ∨ c = '\r' := by
  simp [isSpace,or_assoc]

theorem start_open {c : Char} (start : isStart c = true) : isSpace c = false ∧ c ≠ ']' := by
  constructor
  · rw [← Bool.not_eq_true,isSpace_exact]
    rintro (rfl | rfl | rfl | rfl) <;> exact absurd start (by decide)
  · rintro rfl
    exact absurd start (by decide)

theorem start_number {c : Char} (first : c = '-' ∨ isAsciiDigit c = true) : isStart c = true := by
  rcases first with rfl | digit
  · rfl
  · rw [isStart,digit,Bool.true_or]

theorem Spelled.start {depth : Nat} {text rest : List Char} {json : Json} (spelled : Spelled depth text json rest) :
    ∃ c more, text = c :: more ∧ isStart c = true := by
  cases spelled with
  | number n value =>
    obtain ⟨c,more,text,first⟩ := n.start
    exact ⟨c,more ++ rest,by rw [text,List.cons_append],start_number first⟩
  | _ => exact ⟨_,_,rfl,rfl⟩

mutual

theorem Spelled.shorter {depth : Nat} {text rest : List Char} {json : Json} :
    Spelled depth text json rest → rest.length < text.length
  | .nullWord | .trueWord | .falseWord => by simp only [List.length_cons]; omega
  | .number n value => by
    obtain ⟨c,more,text,_⟩ := n.start
    rw [text]
    simp only [List.length_append,List.length_cons]
    omega
  | .string quoted => Nat.lt_succ_of_lt quoted.shorter
  | .noItems empty | .noFields empty => Nat.lt_succ_of_lt (Nat.lt_of_lt_of_le (Nat.lt_succ_self _) empty.length_le)
  | .array items => Nat.lt_succ_of_lt items.shorter
  | .object fields => Nat.lt_succ_of_lt fields.shorter

theorem Items.shorter {depth : Nat} {cs rest : List Char} {list : List Json} :
    Items depth cs list rest → rest.length < cs.length
  | .last before value after => by
    have start := before.length_le
    have taken := value.shorter
    have closed := after.length_le
    simp only [List.length_cons] at closed
    omega
  | .more before value after others => by
    have start := before.length_le
    have taken := value.shorter
    have comma := after.length_le
    have later := others.shorter
    simp only [List.length_cons] at comma
    omega

theorem Member.shorter {depth : Nat} {cs rest : List Char} {field : String × Json} :
    Member depth cs field rest → rest.length < cs.length
  | .mk before quoted between gap spelled => by
    have start := before.length_le
    have name := quoted.shorter
    have colon := between.length_le
    have space := gap.length_le
    have taken := spelled.shorter
    simp only [List.length_cons] at start colon
    omega

theorem Fields.shorter {depth : Nat} {cs rest : List Char} {list : List (String × Json)} :
    Fields depth cs list rest → rest.length < cs.length
  | .last member after => by
    have taken := member.shorter
    have closed := after.length_le
    simp only [List.length_cons] at closed
    omega
  | .more member after others => by
    have taken := member.shorter
    have comma := after.length_le
    have later := others.shorter
    simp only [List.length_cons] at comma
    omega

end

-- What is spelled the reader finds, if the fuel outlasts the text.
section Complete
variable {fuel : Nat}

def ValueComplete (fuel : Nat) : Prop := ∀ depth text json rest, Spelled depth text json rest → Ends isNumeric rest →
  2 * text.length ≤ fuel → value depth fuel text = some (json,rest)

def ItemsComplete (fuel : Nat) : Prop := ∀ depth acc cs list rest, Items depth cs list rest → 2 * cs.length < fuel →
  items depth fuel acc cs = some (.array (acc.reverse ++ list),rest)

def FieldsComplete (fuel : Nat) : Prop := ∀ depth acc cs list rest, Fields depth cs list rest → 2 * cs.length < fuel →
  fields depth fuel acc cs = some (.object (acc.reverse ++ list),rest)

theorem space_plain (c : Char) (space : isSpace c = true) : isNumeric c = false := by
  rcases isSpace_exact.mp space with rfl | rfl | rfl | rfl <;> decide

theorem Spaced.closes {cs rest : List Char} {c : Char} (spaced : Spaced cs (c :: rest)) (other : isNumeric c = false) :
    Ends isNumeric cs := spaced.ends space_plain (ends_cons.mpr other)

theorem skip_start {c : Char} {cs : List Char} (start : isStart c = true) : skip (c :: cs) = c :: cs :=
  skip_self (ends_cons.mpr (start_open start).1)

theorem skip_spelled {depth : Nat} {cs text rest : List Char} {json : Json} (spaced : Spaced cs text)
    (spelled : Spelled depth text json rest) : skip cs = text := by
  obtain ⟨c,more,rfl,start⟩ := spelled.start
  exact skip_spaced spaced (ends_cons.mpr (start_open start).1)

theorem value_skip (depth fuel : Nat) (cs : List Char) : value depth fuel (skip cs) = value depth fuel cs := by
  cases fuel with
  | zero => simp only [value]
  | succ fuel => simp only [value,skip_skip]

theorem items_skip (depth fuel : Nat) (acc : List Json) (cs : List Char) :
    items depth fuel acc (skip cs) = items depth fuel acc cs := by
  cases fuel with
  | zero => simp only [items]
  | succ fuel =>
    simp only [items,value_skip]

theorem fields_skip (depth fuel : Nat) (acc : List (String × Json)) (cs : List Char) :
    fields depth fuel acc (skip cs) = fields depth fuel acc cs := by
  cases fuel with
  | zero => simp only [fields]
  | succ fuel => simp only [fields,skip_skip]

theorem value_null (depth fuel : Nat) (rest : List Char) :
    value depth (fuel + 1) ('n' :: 'u' :: 'l' :: 'l' :: rest) = some (.null,rest) := by
  have start : skip ('n' :: 'u' :: 'l' :: 'l' :: rest) = _ := skip_start rfl
  have word : expect? ['u','l','l'] ('u' :: 'l' :: 'l' :: rest) = some rest := expect?_exact.mpr rfl
  simp only [value,start,word,Option.map_some]

theorem value_true (depth fuel : Nat) (rest : List Char) :
    value depth (fuel + 1) ('t' :: 'r' :: 'u' :: 'e' :: rest) = some (.bool true,rest) := by
  have start : skip ('t' :: 'r' :: 'u' :: 'e' :: rest) = _ := skip_start rfl
  have word : expect? ['r','u','e'] ('r' :: 'u' :: 'e' :: rest) = some rest := expect?_exact.mpr rfl
  simp only [value,start,word,Option.map_some]

theorem value_false (depth fuel : Nat) (rest : List Char) :
    value depth (fuel + 1) ('f' :: 'a' :: 'l' :: 's' :: 'e' :: rest) = some (.bool false,rest) := by
  have start : skip ('f' :: 'a' :: 'l' :: 's' :: 'e' :: rest) = _ := skip_start rfl
  have word : expect? ['a','l','s','e'] ('a' :: 'l' :: 's' :: 'e' :: rest) = some rest := expect?_exact.mpr rfl
  simp only [value,start,word,Option.map_some]

theorem value_string {depth fuel : Nat} {cs text rest : List Char} (quoted : Quoted cs text rest) :
    value depth (fuel + 1) ('"' :: cs) = some (.string (.ofList text),rest) := by
  have start : skip ('"' :: cs) = '"' :: cs := skip_start rfl
  have read : stringRest [] cs = some (.ofList text,rest) := stringRest_quoted quoted []
  simp only [value,start,read,Option.map_some]

theorem value_number {depth fuel : Nat} {rest : List Char} {v : Number} (n : Numeral) (amount : n.value? = some v)
    (ends : Ends isNumeric rest) : value depth (fuel + 1) (n.text ++ rest) = some (.number v,rest) := by
  have read := read_text n ends
  rw [amount,Option.map_some] at read
  obtain ⟨c,more,text,first⟩ := n.start
  have elsewhere {d : Char} {tail : List Char} (same : n.text ++ rest = d :: tail)
      (special : d ≠ '-' ∧ isAsciiDigit d = false) : False := by
    rw [text] at same
    obtain ⟨rfl,_⟩ := List.cons.inj same
    rcases first with minus | digit
    · exact special.1 minus
    · rw [special.2] at digit
      cases digit
  have begun : skip (n.text ++ rest) = n.text ++ rest := by
    rw [text]
    exact skip_start (start_number first)
  unfold value
  rw [begun]
  split
  case h_7 =>
    rw [read]
    rfl
  all_goals
    rename_i same
    exact (elsewhere same (by decide)).elim

theorem Items.opened {inner : Nat} {cs rest tail : List Char} {list : List Json} (items : Items inner cs list rest) :
    skip cs ≠ ']' :: tail := by
  have first {text behind : List Char} {item : Json} (before : Spaced cs text)
      (spelled : Spelled inner text item behind) : skip cs ≠ ']' :: tail := by
    rw [skip_spelled before spelled]
    obtain ⟨c,more,rfl,start⟩ := spelled.start
    intro same
    exact (start_open start).2 (List.cons.inj same).1
  cases items with
  | last before value _ | more before value _ _ => exact first before value

theorem Fields.opened {inner : Nat} {cs rest tail : List Char} {list : List (String × Json)}
    (fields : Fields inner cs list rest) : skip cs ≠ '}' :: tail := by
  have first {behind : List Char} {field : String × Json} (member : Member inner cs field behind) :
      skip cs ≠ '}' :: tail := by
    cases member with
    | mk before _ _ _ _ =>
      rw [skip_to before rfl]
      simp
  cases fields with
  | last member _ | more member _ _ => exact first member

theorem value_noItems {inner fuel : Nat} {cs rest : List Char} (empty : Spaced cs (']' :: rest)) :
    value (inner + 1) (fuel + 1) ('[' :: cs) = some (.array [],rest) := by
  have start : skip ('[' :: cs) = '[' :: cs := skip_start rfl
  simp only [value,start,skip_to empty rfl]

theorem value_noFields {inner fuel : Nat} {cs rest : List Char} (empty : Spaced cs ('}' :: rest)) :
    value (inner + 1) (fuel + 1) ('{' :: cs) = some (.object [],rest) := by
  have start : skip ('{' :: cs) = '{' :: cs := skip_start rfl
  simp only [value,start,skip_to empty rfl]

theorem value_array {inner fuel : Nat} {cs rest : List Char} {list : List Json} (items : Items inner cs list rest) :
    value (inner + 1) (fuel + 1) ('[' :: cs) = Json.items inner fuel [] cs := by
  have start : skip ('[' :: cs) = '[' :: cs := skip_start rfl
  simp only [value,start]
  split
  · rename_i closed
    exact absurd closed items.opened
  · exact items_skip inner fuel [] cs

theorem value_object {inner fuel : Nat} {cs rest : List Char} {list : List (String × Json)}
    (fields : Fields inner cs list rest) : value (inner + 1) (fuel + 1) ('{' :: cs) = Json.fields inner fuel [] cs := by
  have start : skip ('{' :: cs) = '{' :: cs := skip_start rfl
  simp only [value,start]
  split
  · rename_i closed
    exact absurd closed fields.opened
  · exact fields_skip inner fuel [] cs

theorem value_complete (itemsComplete : ItemsComplete fuel) (fieldsComplete : FieldsComplete fuel) :
    ValueComplete (fuel + 1) := by
  intro depth text json rest spelled ends enough
  cases spelled with
  | nullWord => exact value_null depth fuel rest
  | trueWord => exact value_true depth fuel rest
  | falseWord => exact value_false depth fuel rest
  | number n amount => exact value_number n amount ends
  | string quoted => exact value_string quoted
  | noItems empty => exact value_noItems empty
  | noFields empty => exact value_noFields empty
  | array items =>
    rw [List.length_cons] at enough
    exact (value_array items).trans (itemsComplete _ [] _ _ _ items (by omega))
  | object fields =>
    rw [List.length_cons] at enough
    exact (value_object fields).trans (fieldsComplete _ [] _ _ _ fields (by omega))

theorem items_complete (valueComplete : ValueComplete fuel) (itemsComplete : ItemsComplete fuel) :
    ItemsComplete (fuel + 1) := by
  intro depth acc cs list rest spelled enough
  cases spelled with
  | last before value after =>
    have length := before.length_le
    have ends := after.closes rfl
    have read := valueComplete _ _ _ _ value ends (by omega)
    rw [← skip_spelled before value,value_skip] at read
    simp only [items,read,skip_to after rfl,List.reverse_cons]
  | more before value after others =>
    have length := before.length_le
    have shorter := value.shorter
    have comma := after.length_le
    rw [List.length_cons] at comma
    have ends := after.closes rfl
    have read := valueComplete _ _ _ _ value ends (by omega)
    have later := fun acc => itemsComplete _ acc _ _ _ others (by omega)
    rw [← skip_spelled before value,value_skip] at read
    simp only [items,read,skip_to after rfl,later,List.reverse_cons,List.append_assoc,
      List.singleton_append]

theorem Member.read {depth : Nat} {cs rest : List Char} {name : String} {item : Json}
    (valueComplete : ValueComplete fuel) (member : Member depth cs (name,item) rest) (ends : Ends isNumeric rest)
    (enough : 2 * cs.length ≤ fuel) : ∃ text middle behind, skip cs = '"' :: text ∧
      stringRest [] text = some (name,middle) ∧ skip middle = ':' :: behind ∧
      value depth fuel behind = some (item,rest) := by
  cases member with
  | mk before quoted between gap spelled =>
    have length := before.length_le
    have shorter := quoted.shorter
    have colon := between.length_le
    have space := gap.length_le
    simp only [List.length_cons] at length colon
    have read := valueComplete _ _ _ _ spelled ends (by omega)
    rw [← skip_spelled gap spelled,value_skip] at read
    exact ⟨_,_,_,skip_to before rfl,stringRest_quoted quoted [],
      skip_to between rfl,read⟩

theorem fields_complete (valueComplete : ValueComplete fuel) (fieldsComplete : FieldsComplete fuel) :
    FieldsComplete (fuel + 1) := by
  intro depth acc cs list rest spelled enough
  cases spelled with
  | last member after =>
    have ends := after.closes rfl
    obtain ⟨text,middle,behind,quote,name,colon,read⟩ := member.read valueComplete ends (by omega)
    simp only [fields,quote,name,colon,read,skip_to after rfl,List.reverse_cons]
  | more member after others =>
    have shorter := member.shorter
    have comma := after.length_le
    rw [List.length_cons] at comma
    have ends := after.closes rfl
    obtain ⟨text,middle,behind,quote,name,colon,read⟩ := member.read valueComplete ends (by omega)
    have later := fun acc => fieldsComplete _ acc _ _ _ others (by omega)
    simp only [fields,quote,name,colon,read,skip_to after rfl,later,List.reverse_cons,
      List.append_assoc,List.singleton_append]

theorem all_complete (fuel : Nat) : ValueComplete fuel ∧ ItemsComplete fuel ∧ FieldsComplete fuel := by
  induction fuel with
  | zero =>
    refine ⟨fun depth text json rest spelled _ enough => ?_,nofun,nofun⟩
    have shorter := spelled.shorter
    omega
  | succ fuel ih =>
    obtain ⟨ofValue,ofItems,ofFields⟩ := ih
    exact ⟨value_complete ofItems ofFields,items_complete ofValue ofItems,fields_complete ofValue ofFields⟩

end Complete

theorem read_exact {cs : List Char} {json : Json} : read cs = some json ↔ Document cs json := by
  unfold read
  constructor
  · intro found
    split at found
    · rename_i result rest valued
      split at found
      · rename_i closed
        cases found
        obtain ⟨text,before,spelled⟩ := (all_sound _).1 _ _ _ _ valued
        exact ⟨text,rest,before,spelled,spaced_of_skip closed⟩
      · cases found
    · cases found
  · rintro ⟨text,behind,before,spelled,after⟩
    have length := before.length_le
    have ends := after.ends space_plain ends_nil
    have read := (all_complete (2 * cs.length + 2)).1 _ _ _ _ spelled ends (by omega)
    rw [← skip_spelled before spelled,value_skip] at read
    simp only [read,skip_spaced after ends_nil,if_true]

theorem Spaced.skip_eq {cs rest : List Char} (spaced : Spaced cs rest) : skip cs = skip rest := by
  obtain ⟨gap,space,rfl⟩ := spaced
  exact List.dropWhile_append_of_pos space

theorem Document.spaced {cs rest : List Char} {json : Json} (spaced : Spaced cs rest) :
    Document cs json ↔ Document rest json := by
  constructor
  · rintro ⟨text,behind,before,spelled,after⟩
    have found := skip_spelled before spelled
    rw [spaced.skip_eq] at found
    exact ⟨text,behind,spaced_of_skip found,spelled,after⟩
  · rintro ⟨text,behind,before,spelled,after⟩
    exact ⟨text,behind,spaced.trans before,spelled,after⟩

theorem read_spaced {cs rest : List Char} (spaced : Spaced cs rest) : read cs = read rest := by
  apply Option.ext
  intro json
  rw [read_exact,read_exact,Document.spaced spaced]

end Headway.Json
