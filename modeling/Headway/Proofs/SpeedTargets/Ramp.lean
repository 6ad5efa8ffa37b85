import Headway.Proofs.Exact
import Headway.Proofs.SpeedTargets

-- The ramp to a limit ahead never falls with the distance. It may lead above the present limit from beyond its start.
namespace Headway.SpeedTargets
open Scalar

section Ramp
variable {α : Type} [Scalar α]

-- A ramp is followed from before its end, by an ego well below the line that leads up from the limit ahead.
def Ramping (egoSpeed ahead limit distance : α) (bounds : α × α) : Prop :=
  bounds.1 < distance ∧ egoSpeed + 3.0 < ahead + (limit - ahead) * distance / bounds.2

def ramp (ahead limit distance : α) (bounds : α × α) : α :=
  ahead + (limit - ahead) * (distance - bounds.1) / (bounds.2 - bounds.1)

theorem rampedLimit_followed {egoSpeed ahead limit distance : α} {bounds : α × α}
    (ramping : Ramping egoSpeed ahead limit distance bounds) :
    rampedLimit egoSpeed ahead distance bounds.1 bounds.2 (some limit) = ramp ahead limit distance bounds := if_pos ramping

theorem rampedLimit_bare {egoSpeed ahead limit distance : α} {bounds : α × α}
    (bare : ¬ Ramping egoSpeed ahead limit distance bounds) :
    rampedLimit egoSpeed ahead distance bounds.1 bounds.2 (some limit) = ahead := if_neg bare

variable (driver egoSpeed : α) (map : RoadMap α) (settings : LimitSettings α)

theorem fuse_ahead (followed : settings.follow = true) (known : map.nextLimitKnown = true)
    (near : map.nextLimitDistance < horizonOf settings.mode) :
    let bounds := rampBounds egoSpeed map.nextLimit (horizonOf settings.mode)
    (fuse driver egoSpeed (some map) settings).horizon = bounds.2 ∧
      (fuse driver egoSpeed (some map) settings).limitAhead =
        rampedLimit egoSpeed map.nextLimit map.nextLimitDistance bounds.1 bounds.2
          (if map.limitKnown then some map.limit else none) + settings.offset := by
  have counts : map.nextLimitKnown = true ∧ map.nextLimitDistance < (mapped driver map settings).horizon := ⟨known,near⟩
  rw [fuse_followed followed]
  unfold withLimitAhead
  rw [if_pos counts]
  exact ⟨rfl,rfl⟩

theorem fuse_setpoint (followed : settings.follow = true) :
    (fuse driver egoSpeed (some map) settings).setpoint =
      lesser (lesser (lesser driver (mapped driver map settings).curve) (mapped driver map settings).limit)
        (fuse driver egoSpeed (some map) settings).limitAhead := by
  rw [fuse_followed followed,withLimitAhead_frame]

end Ramp

theorem horizonOf_far (mode : DriveMode) : (150 : ℝ) ≤ horizonOf mode := by
  cases mode <;> norm_num [horizonOf]

theorem rampBounds_low {egoSpeed ahead horizon : ℝ} (low : ahead < lowLimit) : rampBounds egoSpeed ahead horizon =
    (if 7.2 * (egoSpeed - ahead) < 50 then 0 else min (7.2 * (egoSpeed - ahead)) 100,
      max (min (18 * (egoSpeed - ahead)) 300) 50) := by
  have closing : (egoSpeed - ahead) * 3.6 * 2.0 = 7.2 * (egoSpeed - ahead) := by linarith
  have start : (egoSpeed - ahead) * 3.6 * 5.0 = 18 * (egoSpeed - ahead) := by linarith
  unfold rampBounds
  simp only [if_pos low,lesser_min,greater_max,closing,start]
  norm_num

theorem rampBounds_high {egoSpeed ahead horizon : ℝ} (high : lowLimit ≤ ahead) :
    rampBounds egoSpeed ahead horizon = (50.0,horizon) := by
  unfold rampBounds
  rw [if_neg (not_lt.mpr high)]

theorem rampBounds_ordered (egoSpeed ahead : ℝ) {horizon : ℝ} (far : 150 ≤ horizon) :
    0 ≤ (rampBounds egoSpeed ahead horizon).1 ∧
      (rampBounds egoSpeed ahead horizon).1 < (rampBounds egoSpeed ahead horizon).2 := by
  rcases lt_or_ge ahead lowLimit with low | high
  · rw [rampBounds_low low]
    dsimp only
    split
    · exact ⟨le_rfl,lt_max_of_lt_right (by norm_num)⟩
    · rename_i closing
      have closing := not_lt.mp closing
      refine ⟨le_min (by linarith) (by norm_num),lt_max_of_lt_left (lt_min ?_ ?_)⟩
      · exact (min_le_left _ _).trans_lt (by linarith)
      · exact (min_le_right _ _).trans_lt (by norm_num)
  · rw [rampBounds_high high]
    constructor <;> norm_num
    linarith

section Distances
variable {egoSpeed ahead limit distance near far : ℝ} {bounds : ℝ × ℝ}

theorem ramp_le (lower : ahead ≤ limit) (ordered : bounds.1 < bounds.2) (closer : near ≤ far) :
    ramp ahead limit near bounds ≤ ramp ahead limit far bounds := by
  have way : (limit - ahead) * (near - bounds.1) ≤ (limit - ahead) * (far - bounds.1) :=
    mul_le_mul_of_nonneg_left (sub_le_sub_right closer _) (sub_nonneg.mpr lower)
  exact add_le_add_right (div_le_div_of_nonneg_right way (sub_pos.mpr ordered).le) _

theorem ramp_above (lower : ahead ≤ limit) (ordered : bounds.1 < bounds.2) (begun : bounds.1 ≤ distance) :
    ahead ≤ ramp ahead limit distance bounds := by
  have rise : 0 ≤ (limit - ahead) * (distance - bounds.1) / (bounds.2 - bounds.1) :=
    div_nonneg (mul_nonneg (sub_nonneg.mpr lower) (sub_nonneg.mpr begun)) (sub_pos.mpr ordered).le
  exact le_add_of_nonneg_right rise

theorem ramp_below_exact (lower : ahead < limit) (ordered : bounds.1 < bounds.2) :
    ramp ahead limit distance bounds ≤ limit ↔ distance ≤ bounds.2 := by
  unfold ramp
  rw [← le_sub_iff_add_le',mul_div_assoc,mul_le_iff_le_one_right (sub_pos.mpr lower),div_le_one (sub_pos.mpr ordered),
    sub_le_sub_iff_right]

theorem Ramping.further (ramping : Ramping egoSpeed ahead limit near bounds) (lower : ahead ≤ limit)
    (lasting : 0 < bounds.2) (closer : near ≤ far) : Ramping egoSpeed ahead limit far bounds := by
  obtain ⟨begun,slow⟩ := ramping
  have rise : (limit - ahead) * near / bounds.2 ≤ (limit - ahead) * far / bounds.2 :=
    div_le_div_of_nonneg_right (mul_le_mul_of_nonneg_left closer (sub_nonneg.mpr lower)) lasting.le
  exact ⟨begun.trans_le closer,by linarith⟩

theorem rampedLimit_above (lower : ahead ≤ limit) (ordered : bounds.1 < bounds.2) :
    ahead ≤ rampedLimit egoSpeed ahead distance bounds.1 bounds.2 (some limit) := by
  by_cases ramping : Ramping egoSpeed ahead limit distance bounds
  · rw [rampedLimit_followed ramping]
    exact ramp_above lower ordered ramping.1.le
  · rw [rampedLimit_bare ramping]

theorem rampedLimit_below_exact (lower : ahead ≤ limit) (ordered : bounds.1 < bounds.2) :
    rampedLimit egoSpeed ahead distance bounds.1 bounds.2 (some limit) ≤ limit ↔
      ¬ (ahead < limit ∧ bounds.2 < distance ∧ egoSpeed + 3.0 < ahead + (limit - ahead) * distance / bounds.2) := by
  by_cases ramping : Ramping egoSpeed ahead limit distance bounds
  · rw [rampedLimit_followed ramping]
    rcases lower.eq_or_lt with same | apart
    · exact iff_of_true (by simp [ramp,same]) fun beyond => beyond.1.ne same
    · rw [ramp_below_exact apart ordered,← not_lt,not_iff_not]
      exact ⟨fun beyond => ⟨apart,beyond,ramping.2⟩,fun beyond => beyond.2.1⟩
  · rw [rampedLimit_bare ramping]
    apply iff_of_true lower
    rintro ⟨_,beyond,slow⟩
    exact ramping ⟨ordered.trans beyond,slow⟩

-- Coming closer to a limit may end a ramp, and does not begin one.
theorem rampedLimit_le {current : Option ℝ} (lower : ∀ limit ∈ current, ahead ≤ limit) (behind : 0 ≤ bounds.1)
    (ordered : bounds.1 < bounds.2) (closer : near ≤ far) :
    rampedLimit egoSpeed ahead near bounds.1 bounds.2 current ≤ rampedLimit egoSpeed ahead far bounds.1 bounds.2 current := by
  cases current with
  | none => exact le_rfl
  | some limit =>
    have lower := lower limit rfl
    by_cases here : Ramping egoSpeed ahead limit near bounds
    · have there := here.further lower (behind.trans_lt ordered) closer
      rw [rampedLimit_followed here,rampedLimit_followed there]
      exact ramp_le lower ordered closer
    · rw [rampedLimit_bare here]
      exact rampedLimit_above lower ordered

end Distances

section Fused
variable (driver egoSpeed : ℝ) (map : RoadMap ℝ) (settings : LimitSettings ℝ)

-- It counts for more than the present one exactly where a slow ego is further away than the ramp is long.
theorem limitAhead_exact (followed : settings.follow = true) (known : map.limitKnown = true)
    (knownAhead : map.nextLimitKnown = true) (lower : map.nextLimit ≤ map.limit)
    (near : map.nextLimitDistance < horizonOf settings.mode) :
    let targets := fuse driver egoSpeed (some map) settings
    map.nextLimit + settings.offset ≤ targets.limitAhead ∧
      (targets.limitAhead ≤ map.limit + settings.offset ↔
        ¬ (map.nextLimit < map.limit ∧ targets.horizon < map.nextLimitDistance ∧
          egoSpeed + 3.0 < map.nextLimit + (map.limit - map.nextLimit) * map.nextLimitDistance / targets.horizon)) ∧
      (lowLimit ≤ map.nextLimit → targets.limitAhead ≤ map.limit + settings.offset) := by
  intro targets
  obtain ⟨start,counted⟩ : targets.horizon = _ ∧ targets.limitAhead = _ := fuse_ahead _ _ _ _ followed knownAhead near
  have ordered := (rampBounds_ordered egoSpeed map.nextLimit (horizonOf_far settings.mode)).2
  rw [if_pos known] at counted
  rw [start,counted,add_le_add_iff_right,add_le_add_iff_right]
  refine ⟨rampedLimit_above lower ordered,rampedLimit_below_exact lower ordered,?_⟩
  intro high
  rw [rampedLimit_below_exact lower ordered,rampBounds_high high]
  exact fun beyond => beyond.2.1.not_gt near

noncomputable def announced (limit ahead distance : ℝ) : RoadMap ℝ :=
  { RoadMap.blank with
    limitKnown := true, limit, nextLimitKnown := true, nextLimit := ahead, nextLimitDistance := distance }

theorem limitAhead_on_low_ramp :
    (announced 25 5 150).limitKnown = true ∧ (announced 25 5 150).nextLimitKnown = true ∧ (5 : ℝ) ≤ 25 ∧
      (150 : ℝ) < horizonOf .standard ∧
      5 + 1 ≤ (fuse 30 15 (some (announced 25 5 150)) ⟨true,1,.standard⟩).limitAhead ∧
      (fuse 30 15 (some (announced 25 5 150)) ⟨true,1,.standard⟩).limitAhead ≤ 25 + 1 := by
  have near : (150 : ℝ) < horizonOf .standard := by norm_num [horizonOf]
  have low : (5 : ℝ) < lowLimit := by norm_num [lowLimit]
  have start : (fuse 30 15 (some (announced 25 5 150)) ⟨true,1,.standard⟩).horizon = 180 := by
    rw [(fuse_ahead 30 15 (announced 25 5 150) ⟨true,1,.standard⟩ rfl rfl near).1]
    change (rampBounds 15 5 (horizonOf .standard)).2 = (180 : ℝ)
    rw [rampBounds_low low]
    norm_num
  obtain ⟨above,below,_⟩ := limitAhead_exact 30 15 (announced 25 5 150) ⟨true,1,.standard⟩ rfl rfl rfl
    (by norm_num [announced]) near
  refine ⟨rfl,rfl,by norm_num,near,above,below.mpr ?_⟩
  rw [start]
  exact fun beyond => beyond.2.1.not_gt (by norm_num [announced])

-- Fifty metres long, seen from two hundred: four times the height of the present limit above the next.
theorem ramp_overshoots :
    let targets := fuse 30 5 (some (announced 25 5 200)) ⟨true,0,.standard⟩
    (announced 25 5 200).limitKnown = true ∧ (announced 25 5 200).nextLimitKnown = true ∧ (5 : ℝ) ≤ 25 ∧
      (200 : ℝ) < horizonOf .standard ∧ targets.limitAhead = 85 ∧ ¬ targets.limitAhead ≤ 25 + 0 := by
  intro targets
  have near : (200 : ℝ) < horizonOf .standard := by norm_num [horizonOf]
  have low : (5 : ℝ) < lowLimit := by norm_num [lowLimit]
  have bounds : rampBounds 5 5 (horizonOf .standard) = ((0,50) : ℝ × ℝ) := by
    rw [rampBounds_low low]
    norm_num
  have ramping : Ramping (5 : ℝ) 5 25 200 (0,50) := by norm_num [Ramping]
  have counted : targets.limitAhead = 85 := by
    rw [(fuse_ahead 30 5 (announced 25 5 200) ⟨true,0,.standard⟩ rfl rfl near).2]
    change rampedLimit 5 5 200 (rampBounds 5 5 (horizonOf .standard)).1 (rampBounds 5 5 (horizonOf .standard)).2
      (some 25) + 0 = (85 : ℝ)
    rw [bounds,rampedLimit_followed ramping]
    norm_num [ramp]
  refine ⟨rfl,rfl,by norm_num,near,counted,?_⟩
  rw [counted]
  norm_num

-- Coming closer raises neither the ceiling nor what the cruise profile aims for.
theorem approach_lowers (followed : settings.follow = true)
    (known : map.nextLimitKnown = true) (lower : map.limitKnown = true → map.nextLimit ≤ map.limit) {near far : ℝ}
    (closer : near ≤ far) (within : far < horizonOf settings.mode) :
    let targets (distance : ℝ) := fuse driver egoSpeed (some { map with nextLimitDistance := distance }) settings
    let bounds := rampBounds egoSpeed map.nextLimit (horizonOf settings.mode)
    ((targets near).limitAhead ≤ (targets far).limitAhead ∧ (targets near).setpoint ≤ (targets far).setpoint) ∧
      (0 < bounds.2 ∧ 0 < bounds.2 - bounds.1) ∧
      ∀ distance < horizonOf settings.mode, (targets distance).horizon = bounds.2 ∧ (targets distance).limitAhead =
        rampedLimit egoSpeed map.nextLimit distance bounds.1 bounds.2 (if map.limitKnown then some map.limit else none) +
          settings.offset := by
  intro targets bounds
  obtain ⟨behind,ordered⟩ := rampBounds_ordered egoSpeed map.nextLimit (horizonOf_far settings.mode)
  have counted (distance : ℝ) (within : distance < horizonOf settings.mode) :
      (targets distance).horizon = bounds.2 ∧ (targets distance).limitAhead =
        rampedLimit egoSpeed map.nextLimit distance bounds.1 bounds.2 (if map.limitKnown then some map.limit else none) +
          settings.offset := fuse_ahead _ _ { map with nextLimitDistance := distance } _ followed known within
  have lowered : (targets near).limitAhead ≤ (targets far).limitAhead := by
    rw [(counted near (closer.trans_lt within)).2,(counted far within).2]
    apply add_le_add_left
    apply rampedLimit_le _ behind ordered closer
    intro limit current
    split at current
    · rename_i present
      exact Option.some.inj current ▸ lower present
    · cases current
  refine ⟨⟨lowered,?_⟩,⟨behind.trans_lt ordered,sub_pos.mpr ordered⟩,counted⟩
  -- Of what a setpoint is the least of, only the limit ahead depends on the distance.
  have setpoint (distance : ℝ) : (targets distance).setpoint =
      min (min (min driver (mapped driver map settings).curve) (mapped driver map settings).limit)
        (targets distance).limitAhead := by
    simp only [← lesser_min]
    exact fuse_setpoint _ _ _ _ followed
  rw [setpoint near,setpoint far]
  exact min_le_min_left _ lowered

theorem approach_lowers_off_ramp :
    (announced 25 15 150).nextLimitKnown = true ∧ (15 : ℝ) ≤ 25 ∧ (40 : ℝ) ≤ 150 ∧ (150 : ℝ) < horizonOf .standard ∧
      (fuse 30 10 (some (announced 25 15 40)) ⟨true,1,.standard⟩).limitAhead ≤
        (fuse 30 10 (some (announced 25 15 150)) ⟨true,1,.standard⟩).limitAhead ∧
      (fuse 30 10 (some (announced 25 15 40)) ⟨true,1,.standard⟩).setpoint ≤
        (fuse 30 10 (some (announced 25 15 150)) ⟨true,1,.standard⟩).setpoint := by
  have near : (150 : ℝ) < horizonOf .standard := by norm_num [horizonOf]
  have lowered := approach_lowers 30 10 (announced 25 15 150) ⟨true,1,.standard⟩ rfl rfl
    (fun _ => by norm_num [announced]) (by norm_num : (40 : ℝ) ≤ 150) near
  exact ⟨rfl,by norm_num,by norm_num,near,lowered.1⟩

end Fused
end Headway.SpeedTargets
