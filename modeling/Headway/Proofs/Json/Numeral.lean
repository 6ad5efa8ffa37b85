import Headway.Json.Number
import Headway.Proofs.Text.Runs

-- Numbers as JSON text writes them. The reader takes the number that stands at the front of a text, and finds none
-- only where none stands or where it is beyond every double.
namespace Headway.Json
open Text

structure Power where
  mark : Char
  sign : List Char
  digits : List Char
  marked : mark = 'e' ∨ mark = 'E'
  signed : sign = [] ∨ sign = ['+'] ∨ sign = ['-']
  counted : digits ≠ []
  ascii : ∀ c ∈ digits, isAsciiDigit c = true

namespace Power

def text (power : Power) : List Char := power.mark :: (power.sign ++ power.digits)

def shift (power : Power) : Int := if power.sign = ['-'] then -natOf power.digits else natOf power.digits

def textOf (power : Option Power) : List Char := power.elim [] text

def shiftOf (power : Option Power) : Int := power.elim 0 shift

end Power

-- A number, part by part. A fraction without digits is none, and has no point in front of it.
structure Numeral where
  negative : Bool
  whole : List Char
  fraction : List Char
  power : Option Power
  begun : whole ≠ []
  unpadded : ∀ rest, whole = '0' :: rest → rest = []
  ascii : ∀ c ∈ whole ++ fraction, isAsciiDigit c = true

def pointed : List Char → List Char
  | [] => []
  | digits => '.' :: digits

def Numeral.text (n : Numeral) : List Char :=
  (if n.negative then ['-'] else []) ++ (n.whole ++ (pointed n.fraction ++ Power.textOf n.power))

-- What digits in the word amount to, `extra` more of which had no room there. Without fraction and power it is an
-- integer, for as long as there is room for every digit.
def amount? (negative : Bool) (word extra : Nat) (fraction : List Char) (power : Option Power) : Option Number :=
  if fraction = [] ∧ power = none ∧ extra = 0 then some (whole negative word)
  else
    let (word,taken,_) := gather word fraction
    (scaled word (extra - taken + Power.shiftOf power)).map fun x => .real (if negative then -x else x)

def Numeral.value? (n : Numeral) : Option Number :=
  let (word,_,beyond) := gather 0 n.whole
  amount? n.negative word beyond.length n.fraction n.power

def isMark (c : Char) : Bool := c = 'e' || c = 'E'

def isNumeric (c : Char) : Bool := isAsciiDigit c || c = '.' || isMark c

theorem isMark_exact {c : Char} : isMark c = true ↔ c = 'e' ∨ c = 'E' := by simp [isMark]

theorem isNumeric_exact {c : Char} : isNumeric c = false ↔ isAsciiDigit c = false ∧ c ≠ '.' ∧ isMark c = false := by
  simp [isNumeric,and_assoc]

section Gather
variable {ds cs rest : List Char}

theorem gather_run (word : Nat) (ascii : ∀ c ∈ ds, isAsciiDigit c = true) (ends : Ends isAsciiDigit rest) :
    gather word (ds ++ rest) = ((gather word ds).1,(gather word ds).2.1,(gather word ds).2.2 ++ rest) := by
  induction ds generalizing word with
  | nil =>
    cases rest with
    | nil => rfl
    | cons c rest => simp [gather,ends_cons.mp ends]
  | cons c ds ih =>
    obtain ⟨_,others⟩ := List.forall_mem_cons.mp ascii
    simp only [List.cons_append,gather]
    split
    · rw [ih (word * 10 + digitValue c) others]
    · rfl

theorem gather_left (word : Nat) (cs : List Char) :
    ∃ front, front ++ (gather word cs).2.2 = cs ∧ front.length = (gather word cs).2.1 := by
  induction cs generalizing word with
  | nil => exact ⟨[],rfl,rfl⟩
  | cons c cs ih =>
    unfold gather
    split
    · obtain ⟨front,all,length⟩ := ih (word * 10 + digitValue c)
      exact ⟨c :: front,congrArg (c :: ·) all,congrArg (· + 1) length⟩
    · exact ⟨[],rfl,rfl⟩

theorem gather_ascii (word : Nat) (ascii : ∀ c ∈ cs, isAsciiDigit c = true) :
    ∀ c ∈ (gather word cs).2.2, isAsciiDigit c = true := by
  obtain ⟨front,all,_⟩ := gather_left word cs
  intro c member
  exact ascii c (all ▸ List.mem_append_right _ member)

end Gather

section Reading
variable {negative : Bool} {word : Nat} {cs ds rest : List Char} {v : Number}

theorem signedReal_some {x : Option Float} : signedReal negative x rest = some (v,cs) ↔
    (x.map fun x => Number.real (if negative then -x else x)) = some v ∧ rest = cs := by
  unfold signedReal
  cases x <;> simp

theorem power_open {p : Char → Bool} (power : Option Power) (small : p 'e' = false) (large : p 'E' = false)
    (plain : ∀ c, isNumeric c = false → p c = false) (ends : Ends isNumeric rest) :
    Ends p (Power.textOf power ++ rest) := by
  cases power with
  | none => exact fun c first => plain c (ends c first)
  | some power =>
    refine ends_cons.mpr ?_
    rcases power.marked with e | e <;> rw [e]
    · exact small
    · exact large

theorem power_ends (power : Option Power) (ends : Ends isNumeric rest) : Ends isAsciiDigit (Power.textOf power ++ rest) :=
  power_open power (by decide) (by decide) (fun _ plain => (isNumeric_exact.mp plain).1) ends

theorem power_pointless (power : Option Power) (ends : Ends isNumeric rest) :
    Ends (· = '.') (Power.textOf power ++ rest) :=
  power_open power (by decide) (by decide) (fun _ plain => decide_eq_false (isNumeric_exact.mp plain).2.1) ends

theorem exponentPart_text (power : Option Power) (exponent : Int) (ends : Ends isNumeric rest) :
    exponentPart negative word exponent (Power.textOf power ++ rest) =
      signedReal negative (scaled word (exponent + Power.shiftOf power)) rest := by
  have digitsEnd : Ends isAsciiDigit rest := power_ends none ends
  cases power with
  | none =>
    cases rest with
    | nil => simp [Power.textOf,Power.shiftOf,exponentPart]
    | cons c rest =>
      obtain ⟨_,_,unmarked⟩ := isNumeric_exact.mp (ends_cons.mp ends)
      simp [Power.textOf,Power.shiftOf,exponentPart,← isMark_exact,unmarked]
  | some power =>
    obtain ⟨mark,sign,digits,marked,signed,counted,ascii⟩ := power
    have taken := takeWhile_run ascii digitsEnd
    have left := dropWhile_run ascii digitsEnd
    simp only [Power.textOf,Power.shiftOf,Option.elim,Power.text,Power.shift,List.cons_append,exponentPart,if_pos marked]
    rcases signed with rfl | rfl | rfl
    · cases digits with
      | nil => exact absurd rfl counted
      | cons d digits =>
        have digit := ascii d (.head _)
        have plus : d ≠ '+' := by rintro rfl; cases digit
        have minus : d ≠ '-' := by rintro rfl; cases digit
        simp only [List.cons_append] at taken left
        simp [plus,minus,taken,left]
    · simp [taken,left,counted]
    · simp [taken,left,counted,Int.sub_eq_add_neg]

theorem power_found {mark : Char} {sign : List Char} {exponent moved : Int} (marked : mark = 'e' ∨ mark = 'E')
    (signed : sign = [] ∨ sign = ['+'] ∨ sign = ['-'])
    (shifted : moved = exponent +
      if sign = ['-'] then -(natOf (cs.takeWhile isAsciiDigit) : Int) else natOf (cs.takeWhile isAsciiDigit))
    (found : (if cs.takeWhile isAsciiDigit = [] then none
      else signedReal negative (scaled word moved) (cs.dropWhile isAsciiDigit)) = some (v,rest)) :
    ∃ power : Power, mark :: (sign ++ cs) = power.text ++ rest ∧
      signedReal negative (scaled word (exponent + power.shift)) rest = some (v,rest) := by
  split at found
  · cases found
  · rename_i counted
    obtain ⟨_,rfl⟩ := signedReal_some.mp found
    refine ⟨⟨mark,sign,_,marked,signed,counted,List.all_eq_true.mp List.all_takeWhile⟩,?_,?_⟩
    · simp [Power.text,List.takeWhile_append_dropWhile]
    · rw [shifted] at found
      exact found

theorem exponentPart_some {exponent : Int} (found : exponentPart negative word exponent cs = some (v,rest)) :
    ∃ power, cs = Power.textOf power ++ rest ∧ (power = none → Ends isMark cs) ∧
      signedReal negative (scaled word (exponent + Power.shiftOf power)) rest = some (v,rest) := by
  have bare (plain : signedReal negative (scaled word exponent) cs = some (v,rest)) (unmarked : Ends isMark cs) :
      ∃ power, cs = Power.textOf power ++ rest ∧ (power = none → Ends isMark cs) ∧
        signedReal negative (scaled word (exponent + Power.shiftOf power)) rest = some (v,rest) := by
    obtain ⟨_,rfl⟩ := signedReal_some.mp plain
    exact ⟨none,rfl,fun _ => unmarked,by simpa [Power.shiftOf] using plain⟩
  cases cs with
  | nil => exact bare found ends_nil
  | cons mark tail =>
    by_cases marked : mark = 'e' ∨ mark = 'E'
    · have written : ∃ power : Power, mark :: tail = power.text ++ rest ∧
          signedReal negative (scaled word (exponent + power.shift)) rest = some (v,rest) := by
        simp only [exponentPart,if_pos marked] at found
        split at found
        · exact power_found marked (.inr (.inl rfl)) (by simp) found
        · exact power_found marked (.inr (.inr rfl)) (by simp [Int.sub_eq_add_neg]) found
        · exact power_found marked (.inl rfl) (by simp) found
      obtain ⟨power,text,value⟩ := written
      exact ⟨some power,text,nofun,value⟩
    · simp only [exponentPart,if_neg marked] at found
      exact bare found (ends_cons.mpr (by simpa [isMark] using marked))

theorem fractionPart_text (power : Option Power) (exponent : Int) (filled : ds ≠ [])
    (ascii : ∀ c ∈ ds, isAsciiDigit c = true) (ends : Ends isNumeric rest) :
    fractionPart negative word exponent (ds ++ (Power.textOf power ++ rest)) =
      signedReal negative (scaled (gather word ds).1 (exponent - (gather word ds).2.1 + Power.shiftOf power)) rest := by
  have digitsEnd := power_ends power ends
  have beyond := dropWhile_run (gather_ascii word ascii) digitsEnd
  obtain ⟨front,all,length⟩ := gather_left word ds
  have taken : ¬ ((gather word ds).2.1 = 0 ∧ (gather word ds).2.2 = []) := by
    rintro ⟨none,empty⟩
    rw [none] at length
    rw [List.length_eq_zero_iff.mp length,empty] at all
    exact filled all.symm
  simp only [fractionPart,gather_run word ascii digitsEnd,beyond,List.length_append]
  rw [if_neg (by simpa using taken),exponentPart_text power _ ends]

theorem fractionPart_some {exponent : Int} (found : fractionPart negative word exponent cs = some (v,rest)) :
    ∃ ds power, ds ≠ [] ∧ (∀ c ∈ ds, isAsciiDigit c = true) ∧ cs = ds ++ (Power.textOf power ++ rest) ∧
      signedReal negative (scaled (gather word ds).1 (exponent - (gather word ds).2.1 + Power.shiftOf power)) rest =
        some (v,rest) := by
  obtain ⟨ds,behind,rfl,ascii,digitsEnd⟩ := exists_run isAsciiDigit cs
  have beyond := dropWhile_run (gather_ascii word ascii) digitsEnd
  simp only [fractionPart,gather_run word ascii digitsEnd,beyond,List.length_append] at found
  split at found
  · cases found
  · rename_i taken
    obtain ⟨power,rfl,_,value⟩ := exponentPart_some found
    refine ⟨ds,power,?_,ascii,rfl,value⟩
    rintro rfl
    simp [gather] at taken

theorem point_ends (ds : List Char) (power : Option Power) (ends : Ends isNumeric rest) :
    Ends isAsciiDigit (pointed ds ++ (Power.textOf power ++ rest)) := by
  cases ds with
  | nil => exact power_ends power ends
  | cons d ds => exact ends_cons.mpr (by decide)

theorem afterWhole_whole (pointless : Ends (· = '.') cs) (unmarked : Ends isMark cs) :
    afterWhole negative word 0 cs = some (whole negative word,cs) := by
  cases cs with
  | nil => rfl
  | cons c cs =>
    have other : c ≠ '.' := of_decide_eq_false (ends_cons.mp pointless)
    have plain : ¬ (c = 'e' ∨ c = 'E') := by simpa [isMark] using unmarked
    simp [afterWhole,plain]

theorem afterWhole_moved {extra : Nat} (pointless : Ends (· = '.') cs) (moved : ¬ (Ends isMark cs ∧ extra = 0)) :
    afterWhole negative word extra cs = exponentPart negative word extra cs := by
  cases cs with
  | nil =>
    have some : extra ≠ 0 := fun none => moved ⟨ends_nil,none⟩
    simp [afterWhole,Nat.pos_of_ne_zero some]
  | cons c cs =>
    have other : c ≠ '.' := of_decide_eq_false (ends_cons.mp pointless)
    have real : c = 'e' ∨ c = 'E' ∨ 0 < extra := by
      rw [ends_cons,← Bool.not_eq_true,isMark_exact] at moved
      grind
    simp [afterWhole,real]

theorem afterWhole_text (power : Option Power) (extra : Nat) (ascii : ∀ c ∈ ds, isAsciiDigit c = true)
    (ends : Ends isNumeric rest) : afterWhole negative word extra (pointed ds ++ (Power.textOf power ++ rest)) =
      (amount? negative word extra ds power).map (·,rest) := by
  cases ds with
  | cons d ds =>
    refine (fractionPart_text power extra (List.cons_ne_nil d ds) ascii ends).trans ?_
    simp [amount?,signedReal,Function.comp_def]
  | nil =>
    have pointless := power_pointless power ends
    by_cases plain : power = none ∧ extra = 0
    · obtain ⟨rfl,rfl⟩ := plain
      rw [pointed,List.nil_append,afterWhole_whole pointless]
      · rfl
      · exact fun c first => (isNumeric_exact.mp (ends c first)).2.2
    · rw [pointed,List.nil_append,afterWhole_moved pointless,exponentPart_text power _ ends]
      · simp [amount?,plain,signedReal,gather,Function.comp_def]
      · rintro ⟨unmarked,none⟩
        cases power with
        | none => exact plain ⟨rfl,none⟩
        | some power =>
          have marked := isMark_exact.mpr power.marked
          rw [ends_cons.mp unmarked] at marked
          cases marked

theorem afterWhole_some {extra : Nat} (found : afterWhole negative word extra cs = some (v,rest)) :
    ∃ ds power, (∀ c ∈ ds, isAsciiDigit c = true) ∧ cs = pointed ds ++ (Power.textOf power ++ rest) ∧
      amount? negative word extra ds power = some v := by
  by_cases pointless : Ends (· = '.') cs
  · by_cases plain : Ends isMark cs ∧ extra = 0
    · obtain ⟨unmarked,rfl⟩ := plain
      rw [afterWhole_whole pointless unmarked] at found
      cases found
      exact ⟨[],none,nofun,rfl,rfl⟩
    · rw [afterWhole_moved pointless plain] at found
      obtain ⟨power,text,unmarked,value⟩ := exponentPart_some found
      refine ⟨[],power,nofun,text,?_⟩
      have real : ¬ (power = none ∧ extra = 0) := fun both => plain ⟨unmarked both.1,both.2⟩
      simpa [amount?,real,gather] using (signedReal_some.mp value).1
  · cases cs with
    | nil => exact absurd ends_nil pointless
    | cons c cs =>
      obtain rfl : c = '.' := by simpa using pointless
      obtain ⟨ds,power,filled,ascii,rfl,value⟩ := fractionPart_some found
      refine ⟨ds,power,ascii,?_,?_⟩
      · cases ds with
        | nil => exact absurd rfl filled
        | cons d ds => rfl
      · simpa [amount?,filled] using (signedReal_some.mp value).1

theorem unsigned_text {ws : List Char} (negative : Bool) (power : Option Power) (begun : ws ≠ [])
    (unpadded : ∀ more, ws = '0' :: more → more = []) (ascii : ∀ c ∈ ws ++ ds, isAsciiDigit c = true)
    (ends : Ends isNumeric rest) : unsigned negative (ws ++ (pointed ds ++ (Power.textOf power ++ rest))) =
      (amount? negative (gather 0 ws).1 (gather 0 ws).2.2.length ds power).map (·,rest) := by
  obtain ⟨wholeAscii,fractionAscii⟩ := List.forall_mem_append.mp ascii
  have digitsEnd := point_ends ds power ends
  cases ws with
  | nil => exact absurd rfl begun
  | cons d more =>
    by_cases zero : d = '0'
    · subst zero
      obtain rfl := unpadded more rfl
      have stop : ¬ (pointed ds ++ (Power.textOf power ++ rest)).head?.any isAsciiDigit = true := by
        rw [head_any]
        exact fun some => some digitsEnd
      rw [List.singleton_append,unsigned,if_neg stop,afterWhole_text power _ fractionAscii ends]
      rfl
    · have read := gather_run 0 wholeAscii digitsEnd
      have beyond := gather_ascii 0 wholeAscii
      have digit : isAsciiDigit d = true := wholeAscii d (.head _)
      rw [List.cons_append] at read
      simp only [List.cons_append,unsigned,digit,read,if_true]
      rw [takeWhile_run beyond digitsEnd,dropWhile_run beyond digitsEnd,afterWhole_text power _ fractionAscii ends]

theorem unsigned_some (found : unsigned negative cs = some (v,rest)) : ∃ n : Numeral, n.negative = negative ∧
    cs = n.whole ++ (pointed n.fraction ++ (Power.textOf n.power ++ rest)) ∧ n.value? = some v := by
  cases cs with
  | nil => cases found
  | cons c cs =>
    by_cases zero : c = '0'
    · subst zero
      simp only [unsigned] at found
      split at found
      · cases found
      · obtain ⟨ds,power,ascii,rfl,value⟩ := afterWhole_some found
        exact ⟨⟨negative,['0'],ds,power,by simp,by simp,List.forall_mem_cons.mpr ⟨by decide,ascii⟩⟩,rfl,rfl,value⟩
    · simp only [unsigned] at found
      split at found
      · rename_i digit
        obtain ⟨ws,behind,split,wholeAscii,digitsEnd⟩ := exists_run isAsciiDigit (c :: cs)
        have begun : ws ≠ [] := by
          rintro rfl
          rw [List.nil_append] at split
          rw [← split,ends_cons,digit] at digitsEnd
          cases digitsEnd
        have unpadded (more : List Char) (first : ws = '0' :: more) : more = [] := by
          rw [first] at split
          exact absurd (List.cons.inj split).1 zero
        have beyond := gather_ascii 0 wholeAscii
        rw [split,gather_run 0 wholeAscii digitsEnd] at found
        simp only [takeWhile_run beyond digitsEnd,dropWhile_run beyond digitsEnd] at found
        obtain ⟨ds,power,ascii,rfl,value⟩ := afterWhole_some found
        exact ⟨⟨negative,ws,ds,power,begun,unpadded,List.forall_mem_append.mpr ⟨wholeAscii,ascii⟩⟩,rfl,split,value⟩
      · cases found

theorem read_unsigned (unsigned : Ends (· = '-') cs) : Number.read cs = Json.unsigned false cs := by
  cases cs with
  | nil => rfl
  | cons c cs =>
    have other : c ≠ '-' := of_decide_eq_false (ends_cons.mp unsigned)
    unfold Number.read
    split
    · rename_i first
      exact absurd (List.cons.inj first).1 other
    · rfl

theorem Numeral.start (n : Numeral) : ∃ c more, n.text = c :: more ∧ (c = '-' ∨ isAsciiDigit c = true) := by
  unfold Numeral.text
  cases n.negative with
  | true => exact ⟨'-',_,rfl,.inl rfl⟩
  | false =>
    cases whole : n.whole with
    | nil => exact absurd whole n.begun
    | cons d more => exact ⟨d,_,rfl,.inr (n.ascii d (by simp [whole]))⟩

theorem read_text (n : Numeral) (ends : Ends isNumeric rest) :
    Number.read (n.text ++ rest) = n.value?.map (·,rest) := by
  have body := unsigned_text n.negative n.power n.begun n.unpadded n.ascii ends
  unfold Numeral.text
  cases sign : n.negative with
  | true =>
    rw [sign] at body
    simpa [Number.read,Numeral.value?,sign] using body
  | false =>
    rw [sign] at body
    have begun : Ends (· = '-') (n.whole ++ (pointed n.fraction ++ (Power.textOf n.power ++ rest))) := by
      cases whole : n.whole with
      | nil => exact absurd whole n.begun
      | cons d more =>
        have digit := n.ascii d (by simp [whole])
        refine ends_cons.mpr (decide_eq_false ?_)
        rintro rfl
        cases digit
    simpa [read_unsigned begun,Numeral.value?,sign] using body

theorem read_some (found : Number.read cs = some (v,rest)) : ∃ n : Numeral, cs = n.text ++ rest ∧ n.value? = some v := by
  unfold Number.read at found
  split at found
  · obtain ⟨n,sign,rfl,value⟩ := unsigned_some found
    exact ⟨n,by simp [Numeral.text,sign],value⟩
  · obtain ⟨n,sign,rfl,value⟩ := unsigned_some found
    exact ⟨n,by simp [Numeral.text,sign],value⟩

end Reading

end Headway.Json
