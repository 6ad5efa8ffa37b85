import Headway.Json

-- Strings as JSON text writes them, and that the reader takes them and no others.
namespace Headway.Json
open Text

-- A string behind its opening quote: what it stands for, and what follows its closing one. A character beyond the
-- first plane is written as itself or as a pair of surrogates.
inductive Quoted : List Char → List Char → List Char → Prop where
  | close (rest : List Char) : Quoted ('"' :: rest) [] rest
  | plain {c : Char} {cs text rest : List Char} (visible : 0x20 ≤ c.toNat) (other : c ≠ '"' ∧ c ≠ '\\')
      (tail : Quoted cs text rest) : Quoted (c :: cs) (c :: text) rest
  | short {c meant : Char} {cs text rest : List Char} (escaped : stringRest.escaped? c = some meant)
      (tail : Quoted cs text rest) : Quoted ('\\' :: c :: cs) (meant :: text) rest
  | unit {a b c d meant : Char} {cs text rest : List Char} {code : Nat} (hex : hexOf? [a,b,c,d] = some code)
      (char : charOf? code = some meant) (tail : Quoted cs text rest) :
      Quoted ('\\' :: 'u' :: a :: b :: c :: d :: cs) (meant :: text) rest
  | pair {a b c d e f g h meant : Char} {cs text rest : List Char} {high low : Nat}
      (hexHigh : hexOf? [a,b,c,d] = some high) (hexLow : hexOf? [e,f,g,h] = some low)
      (isHigh : 0xD800 ≤ high ∧ high < 0xDC00) (isLow : 0xDC00 ≤ low ∧ low < 0xE000)
      (char : charOf? (0x10000 + (high - 0xD800) * 0x400 + (low - 0xDC00)) = some meant) (tail : Quoted cs text rest) :
      Quoted ('\\' :: 'u' :: a :: b :: c :: d :: '\\' :: 'u' :: e :: f :: g :: h :: cs) (meant :: text) rest

theorem pair_code {high low : Nat} (isHigh : 0xD800 ≤ high ∧ high < 0xDC00) (isLow : 0xDC00 ≤ low ∧ low < 0xE000) :
    0x10000 + high % 0x400 * 0x400 + low % 0x400 = 0x10000 + (high - 0xD800) * 0x400 + (low - 0xDC00) := by omega

theorem no_surrogate {code : Nat} {meant : Char} (char : charOf? code = some meant) : ¬ (0xD800 ≤ code ∧ code < 0xDC00) := by
  intro surrogate
  have invalid : ¬ code.isValidChar := by
    unfold Nat.isValidChar
    omega
  rw [charOf?,if_neg invalid] at char
  cases char

theorem Quoted.shorter {cs text rest : List Char} (quoted : Quoted cs text rest) : rest.length < cs.length := by
  induction quoted with
  | close => exact Nat.lt_succ_self _
  | _ => simp only [List.length_cons]; omega

theorem quoted_cons {acc cs behind rest : List Char} {meant : Char} {s : String}
    (step : ∀ text, Quoted behind text rest → Quoted cs (meant :: text) rest)
    (later : ∃ text, Quoted behind text rest ∧ s = .ofList ((meant :: acc).reverse ++ text)) :
    ∃ text, Quoted cs text rest ∧ s = .ofList (acc.reverse ++ text) := by
  obtain ⟨text,quoted,rfl⟩ := later
  exact ⟨meant :: text,step text quoted,by simp⟩

theorem stringRest_some {acc cs rest : List Char} {s : String} (found : stringRest acc cs = some (s,rest)) :
    ∃ text, Quoted cs text rest ∧ s = .ofList (acc.reverse ++ text) := by
  fun_induction stringRest acc cs with
  | case2 acc rest =>
    cases found
    exact ⟨[],.close rest,by rw [List.append_nil]⟩
  | case4 acc a b c d e f g h behind high hexHigh isHigh low hexLow isLow meant char ih =>
    rw [pair_code isHigh isLow] at char
    exact quoted_cons (fun _ => .pair hexHigh hexLow isHigh isLow char) (ih found)
  | case8 acc a b c d e f g h behind code hex _ meant char ih => exact quoted_cons (fun _ => .unit hex char) (ih found)
  | case10 acc a b c d behind _ meant char ih =>
    obtain ⟨code,hex,char⟩ := Option.bind_eq_some_iff.mp char
    exact quoted_cons (fun _ => .unit hex char) (ih found)
  | case12 acc c behind _ _ meant escaped ih => exact quoted_cons (fun _ => .short escaped) (ih found)
  | case15 acc c behind closing _ _ _ visible ih =>
    have seen : 0x20 ≤ c.toNat := Nat.le_of_not_lt fun hidden => visible (.inl hidden)
    have other : c ≠ '\\' := fun escape => visible (.inr escape)
    exact quoted_cons (fun _ => .plain seen ⟨closing,other⟩) (ih found)
  | _ => cases found

theorem stringRest_quoted {cs text rest : List Char} (quoted : Quoted cs text rest) (acc : List Char) :
    stringRest acc cs = some (.ofList (acc.reverse ++ text),rest) := by
  induction quoted generalizing acc with
  | close rest => simp [stringRest]
  | @plain c cs text rest visible other tail ih =>
    obtain ⟨closing,escape⟩ := other
    have step : stringRest acc (c :: cs) = stringRest (c :: acc) cs := by
      simp [stringRest,escape,Nat.not_lt_of_le visible]
    rw [step,ih]
    simp
  | @short c meant cs text rest escaped tail ih =>
    have other : c ≠ 'u' := by
      rintro rfl
      cases escaped
    have step : stringRest acc ('\\' :: c :: cs) = stringRest (meant :: acc) cs := by
      simp [stringRest,other,escaped]
    rw [step,ih]
    simp
  | @unit a b c d meant cs text rest code hex char tail ih =>
    have step : stringRest acc ('\\' :: 'u' :: a :: b :: c :: d :: cs) = stringRest (meant :: acc) cs := by
      by_cases another : ∃ e f g h more, cs = '\\' :: 'u' :: e :: f :: g :: h :: more
      · obtain ⟨e,f,g,h,more,rfl⟩ := another
        simp [stringRest,hex,char,no_surrogate char]
      · have last (e f g h : Char) (more : List Char) (same : cs = '\\' :: 'u' :: e :: f :: g :: h :: more) : False :=
          another ⟨e,f,g,h,more,same⟩
        simp [stringRest,hex,char]
    rw [step,ih]
    simp
  | @pair a b c d e f g h meant cs text rest high low hexHigh hexLow isHigh isLow char tail ih =>
    rw [← pair_code isHigh isLow] at char
    simp [stringRest,hexHigh,isHigh,hexLow,isLow,char,ih]

end Headway.Json
