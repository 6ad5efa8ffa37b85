import Headway.Proofs.Exact
import Headway.Proofs.Table

-- Tables in exact arithmetic. Their bounds assume nothing about the order of the knots; where the knots go on to the
-- right, a table rises and falls as their values do.
namespace Headway
open Scalar

theorem rescale_between {s₀ s₁ t₀ t₁ x low high : ℝ} (above : s₀ ≤ x) (below : x < s₁)
    (start : low ≤ t₀ ∧ t₀ ≤ high) (stop : low ≤ t₁ ∧ t₁ ≤ high) :
    low ≤ rescale s₀ s₁ t₀ t₁ x ∧ rescale s₀ s₁ t₀ t₁ x ≤ high := by
  have run : 0 < s₁ - s₀ := by linarith
  -- The share of the way, and the value as the mean of the two ends that it weighs.
  have first : 0 ≤ (x - s₀) / (s₁ - s₀) := div_nonneg (by linarith) run.le
  have last : (x - s₀) / (s₁ - s₀) ≤ 1 := (div_le_one run).mpr (by linarith)
  have mean : rescale s₀ s₁ t₀ t₁ x =
      (1 - (x - s₀) / (s₁ - s₀)) * t₀ + (x - s₀) / (s₁ - s₀) * t₁ := by
    unfold rescale
    ring
  rw [mean]
  generalize (x - s₀) / (s₁ - s₀) = share at first last
  constructor <;> nlinarith

-- A relation of values that a table passes on from its knots: it leads from any value to one further on by a positive
-- share of a step that it relates.
structure Slope (related : ℝ → ℝ → Prop) : Prop where
  trans : ∀ {a b c}, related a b → related b c → related a c
  share : ∀ {a b part} (value : ℝ), related a b → 0 < part → related value (value + part * (b - a))

theorem Slope.rising : Slope (· ≤ ·) where
  trans := le_trans
  share _ step part := le_add_of_nonneg_right (mul_nonneg part.le (sub_nonneg.mpr step))

theorem Slope.falling : Slope (· ≥ ·) where
  trans := ge_trans
  share _ step part := add_le_of_nonpos_right (mul_nonpos_of_nonneg_of_nonpos part.le (sub_nonpos.mpr step))

theorem Slope.strictlyRising : Slope (· < ·) where
  trans := lt_trans
  share _ step part := lt_add_of_pos_right _ (mul_pos part (sub_pos.mpr step))

theorem Slope.strictlyFalling : Slope (· > ·) where
  trans := gt_trans
  share _ step part := add_lt_of_neg_right _ (mul_neg_of_pos_of_neg part (sub_neg.mpr step))

def Knot.Inclined (related : ℝ → ℝ → Prop) (left right : Knot ℝ) : Prop := left.x < right.x ∧ related left.y right.y

theorem rescale_start (s₀ s₁ t₀ t₁ : ℝ) : rescale s₀ s₁ t₀ t₁ s₀ = t₀ := by
  simp [rescale]

theorem rescale_stop {s₀ s₁ t₀ t₁ : ℝ} (apart : s₀ < s₁) : rescale s₀ s₁ t₀ t₁ s₁ = t₁ := by
  unfold rescale
  rw [mul_div_cancel_left₀ _ (sub_pos.mpr apart).ne',add_sub_cancel]

theorem Slope.rescale {related : ℝ → ℝ → Prop} (slope : Slope related) {s₀ s₁ t₀ t₁ x y : ℝ} (apart : s₀ < s₁)
    (step : related t₀ t₁) (onward : x < y) : related (rescale s₀ s₁ t₀ t₁ x) (rescale s₀ s₁ t₀ t₁ y) := by
  have further : Scalar.rescale s₀ s₁ t₀ t₁ y = Scalar.rescale s₀ s₁ t₀ t₁ x + (y - x) / (s₁ - s₀) * (t₁ - t₀) := by
    unfold Scalar.rescale
    ring
  rw [further]
  exact slope.share _ step (div_pos (sub_pos.mpr onward) (sub_pos.mpr apart))

namespace Table
variable {table : Table ℝ} {x : ℝ}

theorem segment_knots {property : Knot ℝ → Prop} (all : ∀ knot ∈ table.knots, property knot) (x : ℝ) :
    property (segment x table.first table.second table.rest).1 ∧
      property (segment x table.first table.second table.rest).2 := by
  apply @segment_neighbours ℝ _ fun left right => property left ∧ property right
  apply List.Pairwise.isChain
  exact List.pairwise_of_forall_mem_list fun left member right member' => ⟨all left member,all right member'⟩

theorem segment_spans (above : table.first.x < x) (below : x < table.last.x) :
    (segment x table.first table.second table.rest).1.x ≤ x ∧ x ≤ (segment x table.first table.second table.rest).2.x :=
  segment_around (fun _ _ => rfl) above.le below.le

theorem read_between {low high : ℝ} (within : ∀ knot ∈ table.knots, low ≤ knot.y ∧ knot.y ≤ high) (x : ℝ) :
    low ≤ table.read x ∧ table.read x ≤ high := by
  have last : table.last ∈ table.knots := List.mem_of_getLast? (knots_last table)
  unfold read
  rw [if_neg (show ¬ Scalar.isNaN x = true from Bool.false_ne_true)]
  split
  · exact within table.first List.mem_cons_self
  · rename_i above
    split
    · exact within table.last last
    · rename_i below
      obtain ⟨start,stop⟩ := segment_knots within x
      obtain ⟨reached,notPassed⟩ := segment_spans (not_le.mp above) (not_le.mp below)
      dsimp only
      split
      · exact stop
      · rename_i apart
        have apart : (segment x table.first table.second table.rest).2.x ≠ x := by simpa using apart
        exact rescale_between reached (lt_of_le_of_ne notPassed apart.symm) start stop

theorem knots_of (first second : ℝ × ℝ) (rest : List (ℝ × ℝ)) :
    (Table.of first second rest).knots = (first :: second :: rest).map fun knot => ⟨knot.1,knot.2⟩ := rfl

theorem read_of_between {first second : ℝ × ℝ} {rest : List (ℝ × ℝ)} {low high : ℝ}
    (within : ∀ knot ∈ first :: second :: rest, low ≤ knot.2 ∧ knot.2 ≤ high) (x : ℝ) :
    low ≤ (Table.of first second rest).read x ∧ (Table.of first second rest).read x ≤ high := by
  apply read_between
  rw [knots_of]
  exact List.forall_mem_map.mpr within

section Inclines
variable {related : ℝ → ℝ → Prop} {left right : Knot ℝ} {rest : List (Knot ℝ)} {y : ℝ}

-- The segment that a value falls into, followed to the value. Before the first knot and after the last it goes straight on.
noncomputable def along (x : ℝ) (left right : Knot ℝ) (rest : List (Knot ℝ)) : ℝ :=
  let ends := segment x left right rest
  rescale ends.1.x ends.2.x ends.1.y ends.2.y x

theorem along_cons (x : ℝ) (left right next : Knot ℝ) (rest : List (Knot ℝ)) : along x left right (next :: rest) =
    if right.x < x then along x right next rest else rescale left.x right.x left.y right.y x := by
  unfold along
  conv_lhs => unfold segment
  split <;> rfl

theorem along_start (chain : (left :: right :: rest).IsChain (Knot.Inclined related)) :
    along left.x left right rest = left.y := by
  obtain ⟨step,_⟩ := List.isChain_cons_cons.mp chain
  cases rest with
  | nil => exact rescale_start ..
  | cons next rest =>
    rw [along_cons,if_neg step.1.not_gt]
    exact rescale_start ..

theorem start_before_last (chain : (left :: right :: rest).IsChain (Knot.Inclined related)) :
    left.x < (rest.getLast?.getD right).x := by
  induction rest generalizing left right with
  | nil => exact (List.isChain_cons_cons.mp chain).1.1
  | cons next rest ih =>
    obtain ⟨step,chain⟩ := List.isChain_cons_cons.mp chain
    rw [List.getLast?_cons,Option.getD_some]
    exact step.1.trans (ih chain)

theorem along_stop (chain : (left :: right :: rest).IsChain (Knot.Inclined related)) :
    along (rest.getLast?.getD right).x left right rest = (rest.getLast?.getD right).y := by
  induction rest generalizing left right with
  | nil => exact rescale_stop (List.isChain_cons_cons.mp chain).1.1
  | cons next rest ih =>
    obtain ⟨_,chain⟩ := List.isChain_cons_cons.mp chain
    rw [List.getLast?_cons,Option.getD_some,along_cons,if_pos (start_before_last chain)]
    exact ih chain

theorem along_inclined (slope : Slope related) (chain : (left :: right :: rest).IsChain (Knot.Inclined related))
    (onward : x < y) : related (along x left right rest) (along y left right rest) := by
  induction rest generalizing left right x with
  | nil =>
    obtain ⟨⟨apart,step⟩,_⟩ := List.isChain_cons_cons.mp chain
    exact slope.rescale apart step onward
  | cons next rest ih =>
    obtain ⟨⟨apart,step⟩,chain⟩ := List.isChain_cons_cons.mp chain
    rw [along_cons,along_cons]
    by_cases passed : right.x < x
    · rw [if_pos passed,if_pos (passed.trans onward)]
      exact ih chain onward
    · rw [if_neg passed]
      split
      · rename_i beyond
        -- The knot between the two values passes the relation on.
        have after : related right.y (along y right next rest) := by
          rw [← along_start chain]
          exact ih chain beyond
        rcases (not_lt.mp passed).eq_or_lt with rfl | before
        · rwa [rescale_stop apart]
        · have reaching := slope.rescale apart step before
          rw [rescale_stop apart] at reaching
          exact slope.trans reaching after
      · exact slope.rescale apart step onward

def Inclined (related : ℝ → ℝ → Prop) (table : Table ℝ) : Prop := table.knots.IsChain (Knot.Inclined related)

theorem of_inclined {first second : ℝ × ℝ} {rest : List (ℝ × ℝ)}
    (inclined : (first :: second :: rest).IsChain fun left right => left.1 < right.1 ∧ related left.2 right.2) :
    (Table.of first second rest).Inclined related := by
  unfold Inclined
  rw [knots_of]
  exact (List.isChain_map _).mpr inclined

theorem read_along (inclined : table.Inclined related) (x : ℝ) :
    table.read x = along (clamp table.first.x table.last.x x) table.first table.second table.rest := by
  have ordered : table.first.x < table.last.x := start_before_last inclined
  unfold read
  rw [if_neg (show ¬ Scalar.isNaN x = true from Bool.false_ne_true),clamp_exact]
  split
  · rename_i before
    rw [max_eq_right before,min_eq_right ordered.le]
    exact (along_start inclined).symm
  · rename_i above
    rw [max_eq_left (not_le.mp above).le]
    split
    · rename_i beyond
      rw [min_eq_left beyond]
      exact (along_stop inclined).symm
    · rename_i below
      rw [min_eq_right (not_le.mp below).le]
      unfold along
      dsimp only
      split
      · rename_i same
        have same : (segment x table.first table.second table.rest).2.x = x := by simpa using same
        have apart := (segment_neighbours x _ _ _ inclined).1
        generalize segment x table.first table.second table.rest = ends at same apart ⊢
        subst same
        exact (rescale_stop apart).symm
      · rfl

theorem read_inclined (slope : Slope related) (held : ∀ value, related value value) (inclined : table.Inclined related)
    (le : x ≤ y) : related (table.read x) (table.read y) := by
  rw [read_along inclined,read_along inclined]
  rcases (clamp_mono le : clamp table.first.x table.last.x x ≤ _).eq_or_lt with same | onward
  · rw [same]
    exact held _
  · exact along_inclined slope inclined onward

-- Between the first knot and the last nothing is held, so a step of the value is a step of what is read.
theorem read_inclined_within (slope : Slope related) (inclined : table.Inclined related) (above : table.first.x ≤ x)
    (onward : x < y) (below : y ≤ table.last.x) : related (table.read x) (table.read y) := by
  have within {z : ℝ} (above : table.first.x ≤ z) (below : z ≤ table.last.x) : clamp table.first.x table.last.x z = z := by
    rw [clamp_exact,max_eq_left above,min_eq_right below]
  rw [read_along inclined,read_along inclined,within above (onward.le.trans below),within (above.trans onward.le) below]
  exact along_inclined slope inclined onward

theorem read_mono (rises : table.Inclined (· ≤ ·)) : Monotone table.read :=
  fun _ _ le => read_inclined .rising le_refl rises le

theorem read_anti (falls : table.Inclined (· ≥ ·)) : Antitone table.read :=
  fun _ _ le => (read_inclined .falling (fun _ => le_rfl) falls le : table.read _ ≥ table.read _)

end Inclines
end Table
end Headway
