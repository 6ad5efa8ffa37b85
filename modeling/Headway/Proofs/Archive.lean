import Headway.Archive
import Headway.Proofs.FileTree

-- What an archive holds, read off the files alone: the records at its place, oldest first, if it has been opened.
namespace Headway
variable {α : Type}

def recordsAt (files : FileTree (Sheet α)) (place : Place) : Option (List (Record α)) :=
  (files.file? place).map (·.records)

theorem recordsAt_modify (files : FileTree (Sheet α)) (home : Place) (record : Record α) (place : Place) :
    recordsAt (files.modify home (·.append record)) place =
      (recordsAt files place).map (· ++ if place = home then [record] else []) := by
  unfold recordsAt
  rw [FileTree.file?_modify]
  cases files.file? place with
  | none => simp
  | some sheet =>
    split
    · exact congrArg some (sheet.records_append record)
    · exact congrArg some (List.append_nil _).symm

namespace Archiver

def told (archiver : Archiver) (records : List (Record α)) (files : FileTree (Sheet α)) : FileTree (Sheet α) :=
  match archiver.place with
  | some home => records.foldl (fun files record => files.modify home (·.append record)) files
  | none => files

theorem recordsAt_told (archiver : Archiver) (records : List (Record α)) (files : FileTree (Sheet α)) (place : Place) :
    recordsAt (archiver.told records files) place =
      (recordsAt files place).map (· ++ if archiver.place = some place then records else []) := by
  unfold told
  cases archiver.place with
  | none => simp
  | some home =>
    dsimp only
    induction records generalizing files with
    | nil => simp
    | cons record rest ih =>
      rw [List.foldl_cons,ih,recordsAt_modify,Option.map_map]
      congr 1
      funext rows
      by_cases same : home = place
      · simp [same]
      · simp [same,eq_comm (a := place)]

theorem told_nil (archiver : Archiver) (files : FileTree (Sheet α)) : archiver.told [] files = files := by
  unfold told
  cases archiver.place <;> rfl

theorem told_closed {archiver : Archiver} (shut : ¬ archiver.isOpen = true) (records : List (Record α))
    (files : FileTree (Sheet α)) : archiver.told records files = files := by
  have nowhere : archiver.place = none := Option.not_isSome_iff_eq_none.mp shut
  unfold told
  rw [nowhere]

theorem write_told {archiver : Archiver} (opened : archiver.isOpen = true) (record : Record α)
    (files : FileTree (Sheet α)) : archiver.write record files = .ok (archiver.told [record] files) := by
  obtain ⟨place,stands⟩ := Option.isSome_iff_exists.mp opened
  rw [write,told,stands]
  rfl

theorem foldlM_told {archiver : Archiver} (opened : archiver.isOpen = true) (records : List (Record α))
    (files : FileTree (Sheet α)) :
    records.foldlM (fun files record => archiver.write record files) files = .ok (archiver.told records files) := by
  obtain ⟨place,stands⟩ := Option.isSome_iff_exists.mp opened
  unfold write told
  rw [stands]
  dsimp only
  induction records generalizing files with
  | nil => rfl
  | cons record rest ih => exact ih (files.modify place (·.append record))

theorem writes_told (archiver : Archiver) (wanted : Bool) (records : List (Record α)) (files : FileTree (Sheet α)) :
    (if archiver.isOpen && wanted then
        records.foldlM (fun files record => archiver.write record files) files
      else .ok files) = .ok (archiver.told (if wanted then records else []) files) := by
  cases wanted with
  | false =>
    rw [Bool.and_false]
    exact congrArg Except.ok (told_nil archiver files).symm
  | true =>
    rw [Bool.and_true]
    by_cases opened : archiver.isOpen = true
    · rw [if_pos opened,foldlM_told opened]
      rfl
    · rw [if_neg opened,told_closed opened]

theorem create_opened {files left : FileTree (Sheet α)} {path : Path} {archiver : Archiver} {folder name : String}
    (parent : path.parent.names = [folder]) (last : path.fileName? = some name)
    (proper : Path.isIdle folder = false ∧ folder ≠ "..") (created : create files path = (.ok archiver,left)) :
    archiver = ⟨some [folder,name]⟩ ∧
      ∀ place, recordsAt left place = if place = [folder,name] then some [] else recordsAt files place := by
  unfold create at created
  cases made : files.create path .empty with
  | mk home tree =>
    rw [made] at created
    cases home with
    | none => cases created
    | some home =>
      cases created
      have down : ∀ name ∈ path.parent.names, Path.isIdle name = false ∧ name ≠ ".." := by
        intro other member
        rw [parent,List.mem_singleton] at member
        exact member ▸ proper
      obtain ⟨other,named,stands⟩ := FileTree.create_place down (congrArg Prod.fst made)
      cases Option.some.inj (named.symm.trans last)
      rw [parent] at stands
      obtain rfl : home = [folder,name] := stands
      refine ⟨rfl,?_⟩
      intro place
      have held := files.file?_create path .empty place
      rw [made] at held
      dsimp only at held
      unfold recordsAt
      rw [held]
      by_cases same : place = [folder,name]
      · rw [if_pos (congrArg some same.symm),if_pos same]
        rfl
      · rw [if_neg (fun here => same (Option.some.inj here).symm),if_neg same]

end Archiver
end Headway
