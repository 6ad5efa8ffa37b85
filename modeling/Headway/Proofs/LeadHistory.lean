import Headway.Proofs.Exact.Table
import Headway.Proofs.CollisionWarning.Counters
import Headway.LeadHistory

-- What is remembered of a lead is what was recorded of it, cut to the newest: the speeds since the lead was last lost,
-- and of all speeds that were ever recorded the one that ends each second.
namespace Headway

namespace BoundedBuffer
variable {α : Type} {capacity : Nat}

def holding (capacity : Nat) (items : List α) : BoundedBuffer α := ⟨capacity,items.rtake capacity⟩

theorem holding_nil (capacity : Nat) : holding capacity ([] : List α) = empty capacity := by
  simp [holding,empty]

-- What was pushed out earlier does not come back, so the newest of the newest are the newest of all.
theorem holding_push (room : 0 < capacity) (items : List α) (item : α) :
    (holding capacity items).push item = holding capacity (items ++ [item]) := by
  obtain ⟨others,rfl⟩ := Nat.exists_eq_add_one.mpr room
  have newest : (items.rtake (others + 1)).drop ((items.rtake (others + 1)).length - others) = items.rtake others := by
    unfold List.rtake
    rw [List.length_drop,List.drop_drop]
    congr 1
    omega
  simp [holding,push,newest]

theorem holding_clear (capacity : Nat) (items : List α) : (holding capacity items).clear = holding capacity [] := by
  simp [holding,clear]

end BoundedBuffer

namespace LeadHistory
open Scalar BoundedBuffer
variable {α : Type} {records : List (Option α)}

def after (records : List (Option α)) : LeadHistory α := records.foldl record start

-- The speeds of the lead since it was last lost, oldest first.
def following (records : List (Option α)) : List α := (records.rtakeWhile Option.isSome).reduceOption

theorem following_lost (records : List (Option α)) : following (records ++ [none]) = [] := by
  simp [following]

theorem following_concat (records : List (Option α)) (speed : α) :
    following (records ++ [some speed]) = following records ++ [speed] := by
  simp [following,List.reduceOption_append]

def everySecond (speeds : List α) : List α :=
  (List.range (speeds.length / 20)).filterMap fun second => speeds[20 * second + 19]?

theorem everySecond_concat (speeds : List α) (speed : α) : everySecond (speeds ++ [speed]) =
    if speeds.length % 20 = 19 then everySecond speeds ++ [speed] else everySecond speeds := by
  have known : (List.range (speeds.length / 20)).filterMap (fun second => (speeds ++ [speed])[20 * second + 19]?) =
      everySecond speeds := by
    apply List.filterMap_congr
    intro second member
    have within := List.mem_range.mp member
    exact List.getElem?_append_left (by omega)
  unfold everySecond at known ⊢
  rw [List.length_append,List.length_singleton]
  split
  · rename_i full
    have seconds : (speeds.length + 1) / 20 = speeds.length / 20 + 1 := by omega
    have position : 20 * (speeds.length / 20) + 19 = speeds.length := by omega
    rw [seconds,List.range_succ,List.filterMap_append,known]
    simp [position]
  · have seconds : (speeds.length + 1) / 20 = speeds.length / 20 := by omega
    rw [seconds,known]

-- A second is counted in speeds, however often the lead is lost meanwhile.
def kept (records : List (Option α)) : LeadHistory α where
  recent := holding 60 (following records)
  sampled := holding 180 (everySecond records.reduceOption)
  sinceSample := records.reduceOption.length % 20

theorem record_kept (records : List (Option α)) (recorded : Option α) :
    (kept records).record recorded = kept (records ++ [recorded]) := by
  cases recorded with
  | none => simp [kept,record,following_lost,holding_clear,List.reduceOption_append]
  | some speed =>
    have speeds : (records ++ [some speed]).reduceOption = records.reduceOption ++ [speed] := by
      simp [List.reduceOption_append]
    unfold kept
    rw [speeds,following_concat,everySecond_concat,List.length_append,List.length_singleton]
    by_cases full : records.reduceOption.length % 20 = 19
    · have next : (records.reduceOption.length + 1) % 20 = 0 := by omega
      simp [record,holding_push,samplesPerSecond,full,next]
    · have short : ¬ 19 ≤ records.reduceOption.length % 20 := by omega
      have next : (records.reduceOption.length + 1) % 20 = records.reduceOption.length % 20 + 1 := by omega
      simp [record,holding_push,samplesPerSecond,full,short,next]

theorem after_exact (records : List (Option α)) : after records = kept records := by
  induction records using List.reverseRecOn with
  | nil => simp [after,start,kept,following,everySecond,holding_nil,samplesPerSecond]
  | append_singleton records recorded ih =>
    rw [← record_kept,← ih]
    simp [after]

example : (after (List.replicate 30 (some 1) ++ none :: List.replicate 10 (some 2))).recent.items = List.replicate 10 2 ∧
    (after (List.replicate 30 (some 1) ++ none :: List.replicate 10 (some 2))).sampled.items = [1,2] := by decide +kernel

theorem length_rtake (items : List α) (n : Nat) : (items.rtake n).length = min n items.length := by
  unfold List.rtake
  rw [List.length_drop]
  omega

def Followed (n : Nat) (records : List (Option α)) : Prop :=
  n ≤ records.length ∧ ∀ recorded ∈ records.rtake n, recorded.isSome = true

theorem followed_exact {n : Nat} : n ≤ (following records).length ↔ Followed n records := by
  have speeds : ∀ recorded ∈ records.rtakeWhile Option.isSome, recorded.isSome = true := fun _ => List.mem_rtakeWhile_imp
  have run : (following records).length = CollisionWarning.streak Option.isSome records.reverse := by
    rw [following,List.reduceOption_length_eq_iff.mpr speeds,List.rtakeWhile,List.length_reverse,CollisionWarning.streak]
  simp [run,CollisionWarning.streak_exact,Followed,List.rtake_eq_reverse_take_reverse]

section Estimates
variable [Scalar α]

theorem accelEstimate_brief (brief : (following records).length ≤ 40) : (after records).accelEstimate = 0.0 := by
  simp [after_exact,kept,accelEstimate,holding,BoundedBuffer.length,length_rtake,samplesPerSecond,brief]

def Estimated (speeds : List α) (accel : α) : Prop :=
  ∃ oldest newest, speeds.head? = some oldest ∧ speeds.getLast? = some newest ∧
    accel = (newest - oldest) / (ofNat speeds.length / ofNat 20)

theorem accelEstimate_long (long : 40 < (following records).length) :
    Estimated ((following records).rtake 60) (after records).accelEstimate := by
  have enough : ¬ ((following records).rtake 60).length ≤ 2 * 20 := by
    rw [length_rtake]
    omega
  cases speeds : (following records).rtake 60 with
  | nil => simp [speeds] at enough
  | cons oldest later =>
    obtain ⟨newest,last⟩ : ∃ newest, (oldest :: later).getLast? = some newest := ⟨_,List.getLast?_cons⟩
    rw [speeds] at enough
    refine ⟨oldest,newest,rfl,last,?_⟩
    simp only [after_exact,kept,accelEstimate,holding,BoundedBuffer.length,first?,last?,speeds,samplesPerSecond,last,
      List.head?_cons,if_neg enough]

end Estimates

theorem trafficLevel_between (history : LeadHistory ℝ) (egoSpeed : ℝ) :
    1.0 ≤ history.trafficLevel egoSpeed ∧ history.trafficLevel egoSpeed ≤ 1.2 := by
  unfold trafficLevel
  split
  · norm_num
  · dsimp only
    generalize (changes history.sampled.items).foldl (· + ·) 0.0 / ofNat (changes history.sampled.items).length = mean
    have widened : 1.0 ≤ trafficByChange.read mean ∧ trafficByChange.read mean ≤ 1.2 :=
      Table.read_of_between (by norm_num) mean
    have faded : 0.0 ≤ trafficBySpeed.read egoSpeed ∧ trafficBySpeed.read egoSpeed ≤ 0.2 :=
      Table.read_of_between (by norm_num) egoSpeed
    rw [greater_max]
    refine ⟨le_max_right _ _,max_le ?_ (by norm_num)⟩
    linarith [widened.2,faded.1]

-- The acceleration is estimated once the lead was there for forty-one records, and only then.
theorem history_exact :
    (∀ {α : Type} [Scalar α] (records : List (Option α)),
      (after records).recent.items = (following records).rtake 60 ∧
        (after records).sampled.items = (everySecond records.reduceOption).rtake 180 ∧
        (¬ Followed 41 records ∧ (after records).accelEstimate = 0.0 ∨
          Followed 41 records ∧ Estimated (after records).recent.items (after records).accelEstimate)) ∧
      ∀ (records : List (Option ℝ)) (egoSpeed : ℝ),
        1.0 ≤ (after records).trafficLevel egoSpeed ∧ (after records).trafficLevel egoSpeed ≤ 1.2 := by
  refine ⟨?_,fun records egoSpeed => trafficLevel_between (after records) egoSpeed⟩
  intro α _ records
  have recent : (after records).recent.items = (following records).rtake 60 := by
    simp [after_exact,kept,holding]
  have sampled : (after records).sampled.items = (everySecond records.reduceOption).rtake 180 := by
    simp [after_exact,kept,holding]
  refine ⟨recent,sampled,?_⟩
  rw [recent,← followed_exact]
  rcases Nat.lt_or_ge 40 (following records).length with long | brief
  · exact .inr ⟨long,accelEstimate_long long⟩
  · exact .inl ⟨Nat.not_le.mpr (Nat.lt_succ_of_le brief),accelEstimate_brief brief⟩

end LeadHistory
end Headway
