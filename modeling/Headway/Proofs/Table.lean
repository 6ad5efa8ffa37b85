import Headway.Proofs.Double.Monotone
import Headway.Table

-- Reading a table stays among its segments, and between the bounds that hold where they end.
namespace Headway
open Scalar Double

namespace Table
variable {α : Type} [Scalar α]

omit [Scalar α] in
theorem knots_last (table : Table α) : table.knots.getLast? = some table.last := by
  simp [knots,last,List.getLast?_cons]

theorem segment_neighbours {related : Knot α → Knot α → Prop} (x : α)
    (left right : Knot α) (rest : List (Knot α)) (chain : (left :: right :: rest).IsChain related) :
    related (segment x left right rest).1 (segment x left right rest).2 := by
  induction rest generalizing left right with
  | nil => exact (List.isChain_cons_cons.mp chain).1
  | cons next rest ih =>
    unfold segment
    split
    · exact ih right next (List.isChain_cons_cons.mp chain).2
    · exact (List.isChain_cons_cons.mp chain).1

theorem segment_around [Ordered α] {x : α} {left right : Knot α} {rest : List (Knot α)}
    (numbers : ∀ knot ∈ right :: rest, isNaN knot.x = false) (above : left.x ≤ x)
    (below : x ≤ (rest.getLast?.getD right).x) :
    (segment x left right rest).1.x ≤ x ∧ x ≤ (segment x left right rest).2.x := by
  induction rest generalizing left right with
  | nil => exact ⟨above,below⟩
  | cons next rest ih =>
    unfold segment
    split
    · rename_i passed
      apply ih (fun knot member => numbers knot (List.mem_cons_of_mem _ member)) (Ordered.le_of_lt passed)
      rwa [List.getLast?_cons,Option.getD_some] at below
    · rename_i reached
      exact ⟨above,Ordered.le_of_not_lt (Ordered.numbers_of_le above).2 (numbers right (by simp)) reached⟩

end Table

-- Two knots with a step between them that a double can hold: an infinity meets no zero along it, even where the
-- table is level and the rise is zero.
structure Knot.Tame (left right : Knot Float) : Prop where
  start : left.x.isFinite = true
  stop : right.x.isFinite = true
  value : left.y.isFinite = true
  rise : (right.y - left.y).isFinite = true
  run : (right.x - left.x).isFinite = true
  forward : 0.0 < right.x - left.x

theorem Knot.Tame.offset_finite {left right : Knot Float} (tame : left.Tame right) {x : Float} (above : left.x ≤ x)
    (below : x ≤ right.x) : (x - left.x).isFinite = true := by
  have step : x - left.x ≤ right.x - left.x := sub_mono_first tame.start below
  exact finite_of_between (difference_nonneg tame.start above) step (by decide) tame.run

theorem Knot.Tame.steady {left right : Knot Float} (tame : left.Tame right) :
    (∀ {x y}, left.x ≤ x → x ≤ y → y ≤ right.x →
      rescale left.x right.x left.y right.y x ≤ rescale left.x right.x left.y right.y y) ∨
    (∀ {x y}, left.x ≤ x → x ≤ y → y ≤ right.x →
      rescale left.x right.x left.y right.y y ≤ rescale left.x right.x left.y right.y x) := by
  have finish {p q : Float} (le : p ≤ q) :
      left.y + p / (right.x - left.x) ≤ left.y + q / (right.x - left.x) :=
    add_mono_second tame.value (div_mono tame.run tame.forward le)
  have offsets {x y : Float} (above : left.x ≤ x) (le : x ≤ y) (below : y ≤ right.x) :
      (x - left.x).isFinite = true ∧ (y - left.x).isFinite = true ∧
        Double.value (x - left.x) ≤ Double.value (y - left.x) := by
    have first := tame.offset_finite above (Ordered.le_trans le below)
    have second := tame.offset_finite (Ordered.le_trans above le) below
    exact ⟨first,second,value_le first second (sub_mono_first tame.start le)⟩
  rcases le_total (Double.value (right.y - left.y)) 0 with falls | rises
  · right
    intro x y above le below
    obtain ⟨first,second,order⟩ := offsets above le below
    exact finish ((nearest_mul second tame.rise).le (nearest_mul first tame.rise)
      (mul_le_mul_of_nonpos_right order falls))
  · left
    intro x y above le below
    obtain ⟨first,second,order⟩ := offsets above le below
    exact finish ((nearest_mul first tame.rise).le (nearest_mul second tame.rise)
      (mul_le_mul_of_nonneg_right order rises))

structure Knot.Bounded (low high : Float) (left right : Knot Float) : Prop where
  tame : left.Tame right
  start : low ≤ rescale left.x right.x left.y right.y left.x ∧ rescale left.x right.x left.y right.y left.x ≤ high
  stop : low ≤ rescale left.x right.x left.y right.y right.x ∧ rescale left.x right.x left.y right.y right.x ≤ high
  next : low ≤ right.y ∧ right.y ≤ high

theorem Knot.Bounded.between {low high x : Float} {left right : Knot Float} (bounded : left.Bounded low high right)
    (above : left.x ≤ x) (below : x ≤ right.x) :
    low ≤ rescale left.x right.x left.y right.y x ∧ rescale left.x right.x left.y right.y x ≤ high := by
  obtain ⟨tame,start,stop,_⟩ := bounded
  have first : left.x ≤ left.x := Ordered.le_refl (number_of_finite tame.start)
  have last : right.x ≤ right.x := Ordered.le_refl (number_of_finite tame.stop)
  rcases tame.steady with rises | falls
  · exact ⟨Ordered.le_trans start.1 (rises first above below),Ordered.le_trans (rises above below last) stop.2⟩
  · exact ⟨Ordered.le_trans stop.1 (falls above below last),Ordered.le_trans (falls first above below) start.2⟩

structure Table.Bounded (low high : Float) (table : Table Float) : Prop where
  segments : table.knots.IsChain (Knot.Bounded low high)
  first : low ≤ table.first.y ∧ table.first.y ≤ high
  last : low ≤ table.last.y ∧ table.last.y ≤ high

instance (left right : Knot Float) : Decidable (left.Tame right) :=
  decidable_of_iff (left.x.isFinite = true ∧ right.x.isFinite = true ∧ left.y.isFinite = true ∧
      (right.y - left.y).isFinite = true ∧ (right.x - left.x).isFinite = true ∧ 0.0 < right.x - left.x)
    ⟨fun ⟨start,stop,value,rise,run,forward⟩ => ⟨start,stop,value,rise,run,forward⟩,
      fun ⟨start,stop,value,rise,run,forward⟩ => ⟨start,stop,value,rise,run,forward⟩⟩

instance (low high : Float) : DecidableRel (Knot.Bounded low high) := fun left right =>
  decidable_of_iff (left.Tame right ∧
      (low ≤ rescale left.x right.x left.y right.y left.x ∧ rescale left.x right.x left.y right.y left.x ≤ high) ∧
      (low ≤ rescale left.x right.x left.y right.y right.x ∧ rescale left.x right.x left.y right.y right.x ≤ high) ∧
      low ≤ right.y ∧ right.y ≤ high)
    ⟨fun ⟨tame,start,stop,next⟩ => ⟨tame,start,stop,next⟩,fun ⟨tame,start,stop,next⟩ => ⟨tame,start,stop,next⟩⟩

instance (low high : Float) (table : Table Float) : Decidable (table.Bounded low high) :=
  decidable_of_iff (table.knots.IsChain (Knot.Bounded low high) ∧ (low ≤ table.first.y ∧ table.first.y ≤ high) ∧
      low ≤ table.last.y ∧ table.last.y ≤ high)
    ⟨fun ⟨segments,first,last⟩ => ⟨segments,first,last⟩,fun ⟨segments,first,last⟩ => ⟨segments,first,last⟩⟩

theorem Table.Bounded.numbers {low high : Float} {left : Knot Float} {rest : List (Knot Float)}
    (chain : (left :: rest).IsChain (Knot.Bounded low high)) : ∀ knot ∈ rest, knot.x.isNaN = false := by
  induction rest generalizing left with
  | nil => simp
  | cons next rest ih =>
    obtain ⟨bounded,chain⟩ := List.isChain_cons_cons.mp chain
    intro knot member
    rcases List.mem_cons.mp member with rfl | further
    · exact number_of_finite bounded.tame.stop
    · exact ih chain knot further

theorem Table.Bounded.read_between {low high x : Float} {table : Table Float} (bounded : table.Bounded low high)
    (number : x.isNaN = false) : low ≤ table.read x ∧ table.read x ≤ high := by
  have here : Scalar.isNaN x = false := number
  have numbers := Table.Bounded.numbers bounded.segments
  unfold Table.read
  rw [if_neg (by simp [here])]
  split
  · exact bounded.first
  · rename_i above
    split
    · exact bounded.last
    · rename_i below
      have start := number_of_finite (List.isChain_cons_cons.mp bounded.segments).1.tame.start
      have stop := numbers table.last (List.mem_of_getLast? List.getLast?_cons)
      have first : table.first.x ≤ x := (Ordered.le_total start number).resolve_right above
      have last : x ≤ table.last.x := (Ordered.le_total stop number).resolve_left below
      have segment : Knot.Bounded low high (segment x table.first table.second table.rest).1
          (segment x table.first table.second table.rest).2 :=
        segment_neighbours x table.first table.second table.rest bounded.segments
      have around := segment_around numbers first last
      dsimp only
      split
      · exact segment.next
      · exact segment.between around.1 around.2

end Headway
