import Headway.Proofs.Archive
import Headway.Proofs.Planner.Session

-- What the archives hold after a run. Every cycle adds its plan. The summaries of the instances are added where their
-- archive was opened, which is settled when the planner is set up, and where the parameters of the cycle ask for them.
namespace Headway
variable {σ α : Type} [Scalar α]

namespace Planner

structure Performed (σ α : Type) where
  planner : Planner σ α
  input : PlannerInput α

variable [Solver σ α]

namespace Performed

def planRow (cycle : Performed σ α) : Record α :=
  planRecord cycle.input.time (cycle.planner.update cycle.input).2.1

def mpcRow (cycle : Performed σ α) (side : Side) : Record α :=
  mpcRecord cycle.input.time ((cycle.planner.update cycle.input).1.mpc side)
    (reportOf (cycle.planner.update cycle.input).2.2 side)

def mpcRows (cycle : Performed σ α) : List (Record α) := [cycle.mpcRow .primary,cycle.mpcRow .secondary]

omit [Scalar α] [Solver σ α] in
def verbose (cycle : Performed σ α) : Bool := cycle.planner.params.mpc.verbose

def summaries (cycle : Performed σ α) : List (Record α) := if cycle.verbose then cycle.mpcRows else []

theorem summaries_nil {cycle : Performed σ α} : cycle.summaries = [] ↔ cycle.verbose = false := by
  unfold summaries mpcRows
  cases cycle.verbose <;> simp

end Performed

def performed (planner : Planner σ α) : List (Step α) → List (Performed σ α)
  | [] => []
  | .reconfigure params :: rest => (planner.adopt params).performed rest
  | .cycle input :: rest => ⟨planner,input⟩ :: (planner.update input).1.performed rest

end Planner

namespace ArchivedPlanner
open Planner

omit [Scalar α] in
-- Writing never fails: an archive is written to only where it is open.
theorem write_exact (archived : ArchivedPlanner σ α) {last : CycleRecords α} (held : archived.last = some last)
    (files : Files α) :
    archived.write files =
      .ok (archived.mpcArchive.told (if archived.planner.params.mpc.verbose then last.mpcs else [])
        (archived.planArchive.told [last.plan] files)) := by
  unfold write
  rw [held]
  dsimp only
  by_cases opened : archived.planArchive.isOpen = true
  · rw [if_pos opened,Archiver.write_told opened]
    exact Archiver.writes_told _ _ _ _
  · rw [if_neg opened,Archiver.told_closed opened]
    exact Archiver.writes_told _ _ _ _

variable [Solver σ α]

def rowsAt (archived : ArchivedPlanner σ α) (place : Place) (cycle : Performed σ α) : List (Record α) :=
  (if archived.planArchive.place = some place then [cycle.planRow] else []) ++
    if archived.mpcArchive.place = some place then cycle.summaries else []

theorem cycle_recordsAt (archived : ArchivedPlanner σ α) (input : PlannerInput α) (files : Files α) (place : Place) :
    recordsAt (archived.cycle input files).2.2.2 place =
      (recordsAt files place).map (· ++ archived.rowsAt place ⟨archived.planner,input⟩) := by
  have written : (archived.cycle input files).2.2.2 =
      archived.mpcArchive.told (Performed.mk archived.planner input).summaries
        (archived.planArchive.told [(Performed.mk archived.planner input).planRow] files) := by
    have told := write_exact (archived.update input).1 rfl files
    unfold cycle
    dsimp only
    rw [told]
    rfl
  rw [written,Archiver.recordsAt_told,Archiver.recordsAt_told,Option.map_map]
  congr 1
  funext rows
  exact List.append_assoc _ _ _

def planPlace : Place := ["long_plan","plan.csv"]
def mpcPlace : Place := ["long_plan","mpc.csv"]

omit [Scalar α] [Solver σ α] in
theorem create_plan {files left : Files α} {archiver : Archiver}
    (created : Archiver.create files planPath = (.ok archiver,left)) : archiver = ⟨some planPlace⟩ ∧
      ∀ place, recordsAt left place = if place = planPlace then some [] else recordsAt files place :=
  Archiver.create_opened (by decide) (by decide) (by decide) created

omit [Scalar α] [Solver σ α] in
theorem create_mpc {files left : Files α} {archiver : Archiver}
    (created : Archiver.create files mpcPath = (.ok archiver,left)) : archiver = ⟨some mpcPlace⟩ ∧
      ∀ place, recordsAt left place = if place = mpcPlace then some [] else recordsAt files place :=
  Archiver.create_opened (by decide) (by decide) (by decide) created

theorem rowsAt_plan {archived : ArchivedPlanner σ α} (plan : archived.planArchive = ⟨some planPlace⟩)
    (instances : archived.mpcArchive = .closed ∨ archived.mpcArchive = ⟨some mpcPlace⟩) :
    archived.rowsAt planPlace = fun cycle => [cycle.planRow] := by
  have elsewhere : archived.mpcArchive.place ≠ some planPlace := by
    rcases instances with closed | stands
    · rw [closed]
      exact nofun
    · rw [stands]
      decide
  funext cycle
  unfold rowsAt
  rw [if_pos (congrArg Archiver.place plan),if_neg elsewhere]
  rfl

theorem rowsAt_mpc {archived : ArchivedPlanner σ α} (plan : archived.planArchive = ⟨some planPlace⟩) :
    archived.rowsAt mpcPlace =
      fun cycle => if archived.mpcArchive.place = some mpcPlace then cycle.summaries else [] := by
  have elsewhere : archived.planArchive.place ≠ some mpcPlace := by
    rw [plan]
    decide
  funext cycle
  exact congrArg (· ++ _) (if_neg elsewhere)

-- A set-up that succeeds: the archive of plans is open and empty, and so is the archive of the instances if the
-- parameters ask for it. If they do not, that one is left as it was, closed for a planner set up for the first time.
structure Ready (archived after : ArchivedPlanner σ α) (files left : Files α) : Prop where
  planArchive : after.planArchive = ⟨some planPlace⟩
  plans : recordsAt left planPlace = some []
  mpcArchive : after.mpcArchive = if after.planner.params.mpc.verbose then ⟨some mpcPlace⟩ else archived.mpcArchive
  summaries : recordsAt left mpcPlace =
    if after.planner.params.mpc.verbose then some [] else recordsAt files mpcPlace

omit [Solver σ α] in
theorem setUp_ready {archived : ArchivedPlanner σ α} {loaded : Except LoadError (Params α)} {files : Files α}
    (succeeded : (archived.setUp loaded files).1 = .ok ()) :
    Ready archived (archived.setUp loaded files).2.1 files (archived.setUp loaded files).2.2 := by
  have outcome := archived.setUp_cases loaded files
  generalize archived.setUp loaded files = answer at outcome succeeded ⊢
  obtain ⟨result,after,left⟩ := answer
  have apart : mpcPlace ≠ planPlace := by decide
  cases succeeded
  cases outcome with
  | quiet passed plan silent =>
    obtain ⟨rfl,held⟩ := create_plan plan
    refine ⟨rfl,?_,?_,?_⟩
    · rw [held,if_pos rfl]
    · exact (if_neg (ne_true_of_eq_false silent)).symm
    · rw [held,if_neg apart]
      exact (if_neg (ne_true_of_eq_false silent)).symm
  | verbose passed plan wanted mpc =>
    obtain ⟨rfl,held⟩ := create_plan plan
    obtain ⟨rfl,held'⟩ := create_mpc mpc
    refine ⟨rfl,?_,(if_pos wanted).symm,?_⟩
    · rw [held',if_neg apart.symm,held,if_pos rfl]
    · rw [held',if_pos rfl]
      exact (if_pos wanted).symm

end ArchivedPlanner

namespace Planner

def Side.number : Side → Nat
  | .primary => 1
  | .secondary => 2

def Numbered (planner : Planner σ α) : Prop := ∀ side, (planner.mpc side).id = side.number

theorem adopt_numbered {planner : Planner σ α} (numbered : planner.Numbered) (params : Params α) :
    (planner.adopt params).Numbered := by
  intro side
  rw [← numbered side,adopt_frame]
  cases side <;> rfl

omit [Scalar α] in
theorem withParams_numbered {planner : Planner σ α} (numbered : planner.Numbered) (params : Params α) :
    (planner.withParams params).Numbered := by
  intro side
  rw [← numbered side]
  cases side <;> rfl

variable [Solver σ α]

theorem update_numbered {planner : Planner σ α} (numbered : planner.Numbered) (input : PlannerInput α) :
    (planner.update input).1.Numbered := by
  intro side
  rw [update_mpc,Mpc.update_id]
  exact numbered side

theorem performed_numbered {planner : Planner σ α} (numbered : planner.Numbered) (steps : List (Step α)) :
    ∀ cycle ∈ planner.performed steps, cycle.planner.Numbered := by
  induction steps generalizing planner with
  | nil => exact fun _ member => nomatch member
  | cons step rest ih =>
    cases step with
    | reconfigure params => exact ih (adopt_numbered numbered params)
    | cycle input =>
      intro cycle member
      rcases List.mem_cons.mp member with rfl | later
      · exact numbered
      · exact ih (update_numbered numbered input) cycle later

theorem Performed.mpcRow_number (cycle : Performed σ α) (side : Side) :
    (cycle.mpcRow side).lookup "mpc_id" = some (.count (cycle.planner.mpc side).id) := by
  have number : (reportOf (cycle.planner.update cycle.input).2.2 side).id = (cycle.planner.mpc side).id := by
    rw [update_report]
    exact Mpc.update_id _ _
  rw [← number]
  rfl

theorem Performed.mpcRows_numbered {cycle : Performed σ α} (numbered : cycle.planner.Numbered) :
    cycle.mpcRows.map (·.lookup "mpc_id") = [some (.count 1),some (.count 2)] := by
  unfold mpcRows
  rw [List.map_cons,List.map_cons,List.map_nil,mpcRow_number,mpcRow_number,numbered,numbered]
  rfl

end Planner

namespace Session
open ArchivedPlanner Planner
variable [Solver σ α]

theorem through_recordsAt (session : Session σ α) (steps : List (Step α)) (place : Place) :
    recordsAt (session.through (steps.map .ofStep)).files place =
      (recordsAt session.files place).map
        (· ++ (session.archived.planner.performed steps).flatMap (session.archived.rowsAt place)) := by
  induction steps generalizing session with
  | nil =>
    change recordsAt session.files place = (recordsAt session.files place).map (· ++ [])
    simp
  | cons step rest ih =>
    cases step with
    | reconfigure params =>
      change recordsAt ((session.perform (.reconfigure params)).through (rest.map .ofStep)).files place = _
      rw [ih,perform_reconfigure]
      rfl
    | cycle input =>
      change recordsAt ((session.perform (.cycle input)).through (rest.map .ofStep)).files place = _
      rw [ih]
      change (recordsAt (session.archived.cycle input session.files).2.2.2 place).map _ = _
      rw [cycle_recordsAt,Option.map_map]
      congr 1
      funext rows
      exact List.append_assoc _ _ _

-- What a planner keeps through all that may be asked of it: the numbers of its instances, and the one place where
-- their archive may stand.
structure Housed (session : Session σ α) : Prop where
  numbered : session.archived.planner.Numbered
  instances : session.archived.mpcArchive = .closed ∨ session.archived.mpcArchive = ⟨some mpcPlace⟩

theorem perform_housed (session : Session σ α) (call : Call α) (housed : session.Housed) :
    (session.perform call).Housed := by
  obtain ⟨numbered,instances⟩ := housed
  cases call with
  | reconfigure params =>
    rw [perform_reconfigure]
    exact ⟨adopt_numbered numbered params,instances⟩
  | update input => exact ⟨update_numbered numbered input,instances⟩
  | cycle input => exact ⟨update_numbered numbered input,instances⟩
  | setUp loaded =>
    have outcome := session.archived.setUp_cases loaded session.files
    change Housed ⟨(session.archived.setUp loaded session.files).2.1,(session.archived.setUp loaded session.files).2.2⟩
    generalize session.archived.setUp loaded session.files = answer at outcome ⊢
    obtain ⟨result,after,left⟩ := answer
    cases outcome with
    | unloaded => exact ⟨numbered,instances⟩
    | refused => exact ⟨numbered,instances⟩
    | planShut => exact ⟨withParams_numbered numbered _,instances⟩
    | mpcShut => exact ⟨withParams_numbered numbered _,instances⟩
    | quiet => exact ⟨withParams_numbered numbered _,instances⟩
    | verbose passed plan wanted mpc => exact ⟨withParams_numbered numbered _,.inr (create_mpc mpc).1⟩

theorem through_housed {params : Params α} {primary secondary : σ} {archived : ArchivedPlanner σ α}
    (started : ArchivedPlanner.start params primary secondary = .ok archived) (files : Files α)
    (calls : List (Call α)) : ((Session.mk archived files).through calls).Housed := by
  obtain ⟨_,rfl⟩ := start_exact.mp started
  refine through_keeps Housed ⟨?_,.inl rfl⟩ perform_housed calls
  intro side
  cases side <;> rfl

-- The archives after a set-up that succeeded and a run of cycles. The plans are all there. The summaries are there where
-- the set-up opened their archive, or an earlier one had.
structure Told (before opened after : Session σ α) (cycles : List (Performed σ α)) : Prop where
  plans : recordsAt after.files planPlace = some (cycles.map (·.planRow))
  numbered : ∀ cycle ∈ cycles,
    cycle.mpcRows.map (·.lookup "mpc_id") = [some (.count 1),some (.count 2)]
  summaries : opened.archived.planner.params.mpc.verbose = true →
    recordsAt after.files mpcPlace = some (cycles.flatMap (·.summaries))
  unopened : opened.archived.planner.params.mpc.verbose = false → before.archived.mpcArchive = .closed →
    recordsAt after.files mpcPlace = recordsAt before.files mpcPlace
  reopened : opened.archived.planner.params.mpc.verbose = false → before.archived.mpcArchive ≠ .closed →
    recordsAt after.files mpcPlace = (recordsAt before.files mpcPlace).map (· ++ cycles.flatMap (·.summaries))

-- Of a first set-up nothing is missing exactly where it was verbose itself, or nothing was ever to be told.
theorem Told.complete {before opened after : Session σ α} {cycles : List (Performed σ α)}
    (told : Told before opened after cycles) (first : before.archived.mpcArchive = .closed)
    (empty : recordsAt before.files mpcPlace = none) :
    (recordsAt after.files mpcPlace).getD [] = cycles.flatMap (·.summaries) ↔
      opened.archived.planner.params.mpc.verbose = true ∨ ∀ cycle ∈ cycles, cycle.verbose = false := by
  cases wanted : opened.archived.planner.params.mpc.verbose with
  | true =>
    rw [told.summaries wanted]
    exact iff_of_true rfl (.inl rfl)
  | false =>
    rw [told.unopened wanted first,empty,Option.getD_none,eq_comm,List.flatMap_eq_nil_iff]
    simp only [Bool.false_eq_true,false_or,Performed.summaries_nil]

theorem through_plans {opened : Session σ α} (planArchive : opened.archived.planArchive = ⟨some planPlace⟩)
    (housed : opened.Housed) (plans : recordsAt opened.files planPlace = some []) (steps : List (Step α)) :
    recordsAt (opened.through (steps.map .ofStep)).files planPlace =
      some ((opened.archived.planner.performed steps).map (·.planRow)) := by
  rw [through_recordsAt,plans,rowsAt_plan planArchive housed.instances,List.map_eq_flatMap]
  rfl

theorem through_summaries {opened : Session σ α} (planArchive : opened.archived.planArchive = ⟨some planPlace⟩)
    (steps : List (Step α)) :
    recordsAt (opened.through (steps.map .ofStep)).files mpcPlace =
      if opened.archived.mpcArchive.place = some mpcPlace then
        (recordsAt opened.files mpcPlace).map
          (· ++ (opened.archived.planner.performed steps).flatMap (·.summaries))
      else recordsAt opened.files mpcPlace := by
  rw [through_recordsAt,rowsAt_mpc planArchive]
  split
  · rfl
  · rw [List.flatMap_eq_nil_iff.mpr fun _ _ => rfl]
    simp

theorem archives_told {params : Params α} {primary secondary : σ} {archived : ArchivedPlanner σ α}
    (started : ArchivedPlanner.start params primary secondary = .ok archived) (files : Files α)
    (history : List (Call α)) {loaded : Except LoadError (Params α)}
    (succeeded : (((Session.mk archived files).through history).archived.setUp loaded
      ((Session.mk archived files).through history).files).1 = .ok ()) (steps : List (Step α)) :
    let before := (Session.mk archived files).through history
    let opened := before.perform (.setUp loaded)
    let after := opened.through (steps.map .ofStep)
    let cycles := opened.archived.planner.performed steps
    Told before opened after cycles ∧
      (before.archived.mpcArchive = .closed → recordsAt before.files mpcPlace = none →
        ((recordsAt after.files mpcPlace).getD [] = cycles.flatMap (·.summaries) ↔
          opened.archived.planner.params.mpc.verbose = true ∨ ∀ cycle ∈ cycles, cycle.verbose = false)) := by
  intro before opened after cycles
  have housed : before.Housed := through_housed started files history
  have housed' : opened.Housed := perform_housed before (.setUp loaded) housed
  obtain ⟨planArchive,plans,mpcArchive,summaries⟩ :
      Ready before.archived opened.archived before.files opened.files := setUp_ready succeeded
  have told := through_summaries planArchive steps
  have complete : Told before opened after cycles := by
    refine ⟨through_plans planArchive housed' plans steps,?_,?_,?_,?_⟩
    · intro cycle member
      exact Performed.mpcRows_numbered (performed_numbered housed'.numbered steps cycle member)
    · intro wanted
      rw [wanted,if_pos rfl] at mpcArchive summaries
      rw [mpcArchive,if_pos rfl,summaries] at told
      exact told
    · intro silent closed
      rw [silent,if_neg Bool.false_ne_true] at mpcArchive summaries
      rw [mpcArchive,closed,if_neg nofun,summaries] at told
      exact told
    · intro silent stands
      rw [silent,if_neg Bool.false_ne_true] at mpcArchive summaries
      rw [mpcArchive,housed.instances.resolve_left stands,if_pos rfl,summaries] at told
      exact told
  exact ⟨complete,complete.complete⟩

def talkative : Params Float := { Params.standard with mpc := { MpcParams.standard with verbose := true } }

def lateWish : List (Step Float) := [.reconfigure talkative,.cycle (openRoad 20.0)]

def quiet : Except LoadError (Params Float) := .ok .standard

theorem quiet_succeeds : (unopened.setUp quiet .empty).1 = .ok () := by
  have succeeds : (unopened.setUp quiet .empty).1.isOk = true := by decide +kernel
  generalize (unopened.setUp quiet .empty).1 = result at succeeds ⊢
  cases result with
  | error cause => cases succeeds
  | ok => rfl

theorem summaries_lost :
    let opened := (Session.mk unopened .empty).perform (.setUp quiet)
    let after := opened.through (lateWish.map .ofStep)
    let cycles := opened.archived.planner.performed lateWish
    ArchivedPlanner.start Params.standard (⟨[],0.001⟩ : Scripted Float) ⟨[],0.001⟩ = .ok unopened ∧
      (unopened.setUp quiet .empty).1 = .ok () ∧ cycles.map (·.verbose) = [true] ∧
      (recordsAt after.files mpcPlace).isNone = true :=
  ⟨unopened_start,quiet_succeeds,by decide +kernel,by decide +kernel⟩

theorem late_wish_told :
    let before := (Session.mk unopened .empty).through []
    let opened := before.perform (.setUp quiet)
    let after := opened.through (lateWish.map .ofStep)
    let cycles := opened.archived.planner.performed lateWish
    (unopened.setUp quiet .empty).1 = .ok () ∧ Told before opened after cycles ∧
      (before.archived.mpcArchive = .closed → recordsAt before.files mpcPlace = none →
        ((recordsAt after.files mpcPlace).getD [] = cycles.flatMap (·.summaries) ↔
          opened.archived.planner.params.mpc.verbose = true ∨ ∀ cycle ∈ cycles, cycle.verbose = false)) :=
  ⟨quiet_succeeds,archives_told unopened_start .empty [] quiet_succeeds lateWish⟩

end Session
end Headway
