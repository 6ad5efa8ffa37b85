import Headway.Proofs.Exact.Table
import Headway.Proofs.Double.Order

-- Interpolation over columns that come from outside, in any order and with anything for numbers. The search along the
-- knots has no bound of its own: it is the two comparisons before it that keep it in the table.
namespace Headway
open Scalar

namespace Table
variable {α : Type} [Scalar α] {x : α}

-- Where a search comes to rest, past the first knot and short of the last. It goes on from the knots that are below the value,
-- and stops at one that is not.
structure Rests (x : α) (first : Knot α) (others : List (Knot α)) (left right : Knot α) : Prop where
  past : ¬ x ≤ first.x
  short : ∀ last, (first :: others).getLast? = some last → ¬ last.x ≤ x
  inside : ∃ passed ahead, others = passed ++ right :: ahead ∧ (first :: passed).getLast? = some left ∧
    ∀ knot ∈ passed, knot.x < x
  reached : ¬ right.x < x

inductive Reads (x : α) : List (Knot α) → α → Prop where
  | missing {knots : List (Knot α)} (unread : isNaN x = true) : Reads x knots x
  | before {first : Knot α} {others : List (Knot α)} (reached : x ≤ first.x) : Reads x (first :: others) first.y
  | beyond {first last : Knot α} {others : List (Knot α)} (past : ¬ x ≤ first.x)
      (ends : (first :: others).getLast? = some last) (passed : last.x ≤ x) : Reads x (first :: others) last.y
  | found {first left right : Knot α} {others : List (Knot α)} (rests : Rests x first others left right)
      (here : (right.x == x) = true) : Reads x (first :: others) right.y
  | between {first left right : Knot α} {others : List (Knot α)} (rests : Rests x first others left right)
      (apart : (right.x == x) = false) : Reads x (first :: others) (rescale left.x right.x left.y right.y x)

variable [Ordered α]

-- At the last knot the search has to stop: it is not below a value that is short of it.
theorem segment_inside (left right : Knot α) (rest : List (Knot α)) (short : ¬ (rest.getLast?.getD right).x ≤ x) :
    (∃ passed ahead, right :: rest = passed ++ (segment x left right rest).2 :: ahead ∧
      (left :: passed).getLast? = some (segment x left right rest).1 ∧ ∀ knot ∈ passed, knot.x < x) ∧
      ¬ (segment x left right rest).2.x < x := by
  induction rest generalizing left right with
  | nil => exact ⟨⟨[],[],rfl,rfl,by simp⟩,fun below => short (Ordered.le_of_lt below)⟩
  | cons next rest ih =>
    unfold segment
    split
    · rename_i below
      rw [List.getLast?_cons,Option.getD_some] at short
      obtain ⟨⟨passed,ahead,knots,last,all⟩,reached⟩ := ih right next short
      refine ⟨⟨right :: passed,ahead,by simp [knots],by simp [last],?_⟩,reached⟩
      exact List.forall_mem_cons.mpr ⟨below,all⟩
    · rename_i reached
      exact ⟨⟨[],next :: rest,rfl,rfl,by simp⟩,reached⟩

-- A search of a value that the last knot is past does not leave the table.
theorem search?_segment (x : α) (left right : Knot α) (rest : List (Knot α))
    (short : ¬ (rest.getLast?.getD right).x ≤ x) :
    search? x (left :: right :: rest) = some (segment x left right rest) := by
  induction rest generalizing left right with
  | nil => exact if_neg fun below => short (Ordered.le_of_lt below)
  | cons next rest ih =>
    rw [List.getLast?_cons,Option.getD_some] at short
    unfold search? segment
    split
    · exact ih right next short
    · rfl

theorem segment_rests {table : Table α} (past : ¬ x ≤ table.first.x) (short : ¬ table.last.x ≤ x) :
    Rests x table.first (table.second :: table.rest) (segment x table.first table.second table.rest).1
      (segment x table.first table.second table.rest).2 := by
  obtain ⟨inside,reached⟩ := segment_inside table.first table.second table.rest short
  refine ⟨past,?_,inside,reached⟩
  intro other ends
  have same : some table.last = some other := (knots_last table).symm.trans ends
  cases same
  exact short

theorem read_reads (table : Table α) (x : α) : Reads x table.knots (table.read x) := by
  unfold read
  split
  · rename_i unread
    exact .missing unread
  · split
    · rename_i reached
      exact .before reached
    · rename_i past
      split
      · rename_i passed
        exact .beyond past (knots_last table) passed
      · rename_i short
        have rests := segment_rests past short
        dsimp only
        split
        · rename_i here
          exact .found rests here
        · rename_i apart
          exact .between rests (by simpa using apart)

end Table

section Columns
variable {α : Type} {breakpoints values : List α}

inductive Matching : List α → List α → Prop where
  | single (b y : α) : Matching [b] [y]
  | several (b₀ b₁ y₀ y₁ : α) {bs ys : List α} (same : bs.length = ys.length) :
      Matching (b₀ :: b₁ :: bs) (y₀ :: y₁ :: ys)

theorem matching_exact : Matching breakpoints values ↔ breakpoints ≠ [] ∧ breakpoints.length = values.length := by
  constructor
  · intro matching
    cases matching with
    | single => simp
    | several _ _ _ _ same => simp [same]
  · intro ⟨nonempty,same⟩
    match breakpoints, values with
    | [], _ => exact absurd rfl nonempty
    | [b], [y] => exact .single b y
    | [_], [] | [_], _ :: _ :: _ | _ :: _ :: _, [] | _ :: _ :: _, [_] => simp at same
    | b₀ :: b₁ :: bs, y₀ :: y₁ :: ys => exact .several b₀ b₁ y₀ y₁ (by simpa using same)

variable [Scalar α]

omit [Scalar α] in
theorem knots_columns (b₀ b₁ y₀ y₁ : α) (bs ys : List α) :
    (Table.of (b₀,y₀) (b₁,y₁) (bs.zip ys)).knots = columns (b₀ :: b₁ :: bs) (y₀ :: y₁ :: ys) := rfl

theorem interpolate_malformed (bad : ¬ Matching breakpoints values) (x : α) :
    interpolate breakpoints values x = .error .malformed := by
  unfold interpolate
  split
  · rfl
  · rename_i same
    obtain rfl : breakpoints = [] := by
      by_contra nonempty
      exact bad (matching_exact.mpr ⟨nonempty,not_not.mp same⟩)
    rfl

theorem interpolate_single (b y x : α) : interpolate [b] [y] x =
    if isNaN x then .ok x else if x ≤ b ∨ b ≤ x then .ok y else .error (.outside 1) := by
  by_cases below : x ≤ b <;> simp [interpolate,columns,Table.search?,below]

variable [Ordered α]

theorem interpolate_several (b₀ b₁ y₀ y₁ : α) {bs ys : List α} (same : bs.length = ys.length) (x : α) :
    interpolate (b₀ :: b₁ :: bs) (y₀ :: y₁ :: ys) x = .ok ((Table.of (b₀,y₀) (b₁,y₁) (bs.zip ys)).read x) := by
  have lengths : (b₀ :: b₁ :: bs).length = (y₀ :: y₁ :: ys).length := by simp [same]
  unfold interpolate Table.read
  rw [if_neg (not_not.mpr lengths),← knots_columns]
  generalize Table.of (b₀,y₀) (b₁,y₁) (bs.zip ys) = table
  have last : (table.second :: table.rest).getLast?.getD table.first = table.last := by
    rw [List.getLast?_cons,Option.getD_some]
    rfl
  simp only [Table.knots,last]
  by_cases passed : table.last.x ≤ x
  · simp only [if_pos passed]
    split_ifs <;> rfl
  · simp only [if_neg passed,Table.search?_segment x _ _ _ passed]
    split_ifs <;> rfl

theorem unordered_exact {b x : α} : (isNaN x = false ∧ ¬ (x ≤ b ∨ b ≤ x)) ↔ isNaN b = true ∧ isNaN x = false := by
  constructor
  · intro ⟨number,unordered⟩
    refine ⟨?_,number⟩
    by_contra other
    exact unordered (Ordered.le_total number (by simpa using other))
  · intro ⟨missing,number⟩
    refine ⟨number,?_⟩
    intro ordered
    cases ordered with
    | inl below => simp [(Ordered.numbers_of_le below).2] at missing
    | inr above => simp [(Ordered.numbers_of_le above).1] at missing

theorem interpolate_fails (breakpoints values : List α) (x : α) :
    (∃ error, interpolate breakpoints values x = .error error) ↔
      breakpoints = [] ∨ breakpoints.length ≠ values.length ∨
        ∃ b, breakpoints = [b] ∧ isNaN b = true ∧ isNaN x = false := by
  by_cases matching : Matching breakpoints values
  · cases matching with
    | single b y =>
      have fails : (∃ error, interpolate [b] [y] x = .error error) ↔ isNaN x = false ∧ ¬ (x ≤ b ∨ b ≤ x) := by
        rw [interpolate_single]
        by_cases missing : isNaN x = true
        · simp [missing]
        · by_cases ordered : x ≤ b ∨ b ≤ x <;> simp [missing,ordered]
      rw [fails,unordered_exact]
      simp
    | several b₀ b₁ y₀ y₁ same => simp [interpolate_several,same]
  · refine iff_of_true ⟨_,interpolate_malformed matching x⟩ ?_
    rw [matching_exact,not_and_or,not_not] at matching
    exact matching.imp_right .inl

theorem interpolate_reads {x y : α} (answered : interpolate breakpoints values x = .ok y) :
    Table.Reads x (columns breakpoints values) y := by
  by_cases matching : Matching breakpoints values
  · cases matching with
    | single b held =>
      rw [interpolate_single] at answered
      split at answered
      · rename_i missing
        cases answered
        exact .missing missing
      · split at answered
        · rename_i ordered
          cases answered
          by_cases below : x ≤ b
          · exact .before below
          · exact .beyond below rfl (ordered.resolve_left below)
        · cases answered
    | several b₀ b₁ y₀ y₁ same =>
      rw [interpolate_several _ _ _ _ same] at answered
      cases answered
      rw [← knots_columns]
      exact Table.read_reads _ x
  · rw [interpolate_malformed matching] at answered
    cases answered

end Columns

section Exact
variable {breakpoints values : List ℝ}

-- Equal breakpoints make an empty segment, which the search never ends in.
theorem Table.Rests.spans {x : ℝ} {first left right : Knot ℝ} {others : List (Knot ℝ)}
    (rests : Table.Rests x first others left right) (apart : right.x ≠ x) : left.x < x ∧ x < right.x := by
  obtain ⟨passed,ahead,_,last,below⟩ := rests.inside
  refine ⟨?_,lt_of_le_of_ne (not_lt.mp rests.reached) apart.symm⟩
  rcases List.mem_cons.mp (List.mem_of_getLast? last) with rfl | member
  · exact not_le.mp rests.past
  · exact below left member

theorem columns_inclined {related : ℝ → ℝ → Prop} (rising : breakpoints.IsChain (· < ·)) (chain : values.IsChain related) :
    (columns breakpoints values).IsChain (Knot.Inclined related) := by
  induction breakpoints generalizing values with
  | nil => simp [columns]
  | cons b₀ breakpoints ih =>
    match breakpoints, values with
    | _, [] | [], [_] | [], _ :: _ :: _ | _ :: _, [_] => simp [columns]
    | b₁ :: bs, y₀ :: y₁ :: ys =>
      obtain ⟨apart,rising⟩ := List.isChain_cons_cons.mp rising
      obtain ⟨step,chain⟩ := List.isChain_cons_cons.mp chain
      exact List.isChain_cons_cons.mpr ⟨⟨apart,step⟩,ih rising chain⟩

theorem value_of_column {knot : Knot ℝ} (member : knot ∈ columns breakpoints values) : knot.y ∈ values := by
  obtain ⟨pair,paired,rfl⟩ := List.mem_map.mp member
  exact (List.of_mem_zip paired).2

theorem breakpoints_of_columns (same : breakpoints.length = values.length) :
    (columns breakpoints values).map Knot.x = breakpoints := by
  unfold columns
  rw [List.map_map]
  exact List.map_fst_zip same.le

theorem last_breakpoint (b₀ b₁ y₀ y₁ : ℝ) {bs ys : List ℝ} (same : bs.length = ys.length) :
    (Table.of (b₀,y₀) (b₁,y₁) (bs.zip ys)).last.x = (b₀ :: b₁ :: bs).getLast (List.cons_ne_nil _ _) := by
  have ends := congrArg (Option.map Knot.x) (Table.knots_last (Table.of (b₀,y₀) (b₁,y₁) (bs.zip ys)))
  rw [← List.getLast?_map,knots_columns,breakpoints_of_columns (by simp [same]),
    List.getLast?_eq_some_getLast (List.cons_ne_nil _ _)] at ends
  exact (Option.some.inj ends).symm

theorem least_and_most (nonempty : values ≠ []) :
    ∃ low high, values.min? = some low ∧ values.max? = some high ∧ ∀ y ∈ values, low ≤ y ∧ y ≤ high := by
  obtain ⟨low,least⟩ := Option.isSome_iff_exists.mp (List.isSome_min?_of_ne_nil nonempty)
  obtain ⟨high,most⟩ := Option.isSome_iff_exists.mp (List.isSome_max?_of_ne_nil nonempty)
  refine ⟨low,high,least,most,?_⟩
  intro y member
  exact ⟨(List.min?_eq_some_iff.mp least).2 y member,(List.max?_eq_some_iff.mp most).2 y member⟩

-- Columns that are read at every value, with what the order of the breakpoints and of the values says of the reading.
structure Interpolates (breakpoints values : List ℝ) (nonempty : breakpoints ≠ []) (read : ℝ → ℝ) : Prop where
  answers : ∀ x, interpolate breakpoints values x = .ok (read x)
  reads : ∀ x, Table.Reads x (columns breakpoints values) (read x)
  between : ∃ low high, values.min? = some low ∧ values.max? = some high ∧ ∀ x, low ≤ read x ∧ read x ≤ high
  spans : ∀ {x first others left right}, columns breakpoints values = first :: others →
    Table.Rests x first others left right → right.x ≠ x → left.x < x ∧ x < right.x
  rising : breakpoints.IsChain (· < ·) → values.IsChain (· ≤ ·) → Monotone read
  falling : breakpoints.IsChain (· < ·) → values.IsChain (· ≥ ·) → Antitone read
  strictlyRising : breakpoints.IsChain (· < ·) → values.IsChain (· < ·) →
    StrictMonoOn read (Set.Icc (breakpoints.head nonempty) (breakpoints.getLast nonempty))
  strictlyFalling : breakpoints.IsChain (· < ·) → values.IsChain (· > ·) →
    StrictAntiOn read (Set.Icc (breakpoints.head nonempty) (breakpoints.getLast nonempty))

theorem single_interpolates (b y : ℝ) : Interpolates [b] [y] (List.cons_ne_nil _ _) fun _ => y := by
  have answers : ∀ x, interpolate [b] [y] x = .ok y := by
    intro x
    rw [interpolate_single,if_neg (show ¬ Scalar.isNaN x = true from Bool.false_ne_true),if_pos (le_total x b)]
  exact {
    answers
    reads := fun x => interpolate_reads (answers x)
    between := ⟨y,y,rfl,rfl,fun _ => ⟨le_rfl,le_rfl⟩⟩
    spans := fun _ rests apart => rests.spans apart
    rising := fun _ _ => monotone_const
    falling := fun _ _ => antitone_const
    strictlyRising := fun _ _ => by simp
    strictlyFalling := fun _ _ => by simp }

theorem table_interpolates (b₀ b₁ y₀ y₁ : ℝ) {bs ys : List ℝ} (same : bs.length = ys.length) :
    Interpolates (b₀ :: b₁ :: bs) (y₀ :: y₁ :: ys) (List.cons_ne_nil _ _)
      (Table.of (b₀,y₀) (b₁,y₁) (bs.zip ys)).read where
  answers x := interpolate_several _ _ _ _ same x
  reads x := interpolate_reads (interpolate_several _ _ _ _ same x)
  between := by
    obtain ⟨low,high,least,most,all⟩ := least_and_most (List.cons_ne_nil y₀ (y₁ :: ys))
    refine ⟨low,high,least,most,?_⟩
    apply Table.read_between
    intro knot member
    rw [knots_columns] at member
    exact all knot.y (value_of_column member)
  spans _ rests apart := rests.spans apart
  rising rising chain := Table.read_mono (columns_inclined rising chain)
  falling rising chain := Table.read_anti (columns_inclined rising chain)
  strictlyRising rising chain := by
    intro x above y below onward
    rw [← last_breakpoint _ _ y₀ y₁ same] at above below
    exact Table.read_inclined_within .strictlyRising (columns_inclined rising chain) above.1 onward below.2
  strictlyFalling rising chain := by
    intro x above y below onward
    rw [← last_breakpoint _ _ y₀ y₁ same] at above below
    have inclined : (Table.of (b₀,y₀) (b₁,y₁) (bs.zip ys)).Inclined (· > ·) := columns_inclined rising chain
    have falls := Table.read_inclined_within Slope.strictlyFalling inclined above.1 onward below.2
    exact falls

theorem interpolate_exact :
    (∀ (breakpoints values : List Float) (x : Float),
      ((∃ error, interpolate breakpoints values x = .error error) ↔
        breakpoints = [] ∨ breakpoints.length ≠ values.length ∨
          ∃ b, breakpoints = [b] ∧ b.isNaN = true ∧ x.isNaN = false) ∧
        ∀ y, interpolate breakpoints values x = .ok y → Table.Reads x (columns breakpoints values) y) ∧
      ∀ (breakpoints values : List ℝ) (nonempty : breakpoints ≠ []), breakpoints.length = values.length →
        ∃ read, Interpolates breakpoints values nonempty read := by
  constructor
  · intro breakpoints values x
    exact ⟨interpolate_fails breakpoints values x,fun y answered => interpolate_reads answered⟩
  · intro breakpoints values nonempty same
    have matching := matching_exact.mpr ⟨nonempty,same⟩
    cases matching with
    | single b y => exact ⟨_,single_interpolates b y⟩
    | several b₀ b₁ y₀ y₁ rests => exact ⟨_,table_interpolates b₀ b₁ y₀ y₁ rests⟩

theorem interpolate_exact_rising : (∃ error, interpolate [0.0 / 0.0] [7.0] (3.0 : Float) = .error error) ∧
    ([0,5,10] : List ℝ) ≠ [] ∧ ([0,5,10] : List ℝ).length = ([1,2,4] : List ℝ).length ∧
    ∃ read : ℝ → ℝ, (∀ x, interpolate [0,5,10] [1,2,4] x = .ok (read x)) ∧ StrictMonoOn read (Set.Icc 0 10) := by
  have nonempty : ([0,5,10] : List ℝ) ≠ [] := by simp
  have same : ([0,5,10] : List ℝ).length = ([1,2,4] : List ℝ).length := rfl
  refine ⟨((interpolate_exact.1 [0.0 / 0.0] [7.0] 3.0).1).mpr ?_,nonempty,same,?_⟩
  · exact .inr (.inr ⟨_,rfl,by decide,by decide⟩)
  · obtain ⟨read,reading⟩ := interpolate_exact.2 _ _ nonempty same
    exact ⟨read,reading.answers,reading.strictlyRising (by simp; norm_num) (by simp; norm_num)⟩

end Exact
end Headway
