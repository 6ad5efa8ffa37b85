import Headway.FileTree

-- What the operations do to the files there are. Seen through what is in them, a file is changed by writing to it
-- and by nothing else: folders that are made on the way change none, and no operation takes one away.
namespace Headway.FileTree
variable {β : Type}

def file? (tree : FileTree β) (place : Place) : Option β :=
  (tree.find? place).bind fun
    | .folder => none
    | .file content => some content

theorem find?_put (tree : FileTree β) {place : Place} (below : place ≠ []) (entry : Entry β) (other : Place) :
    (tree.put place entry).find? other = if other = place then some entry else tree.find? other := by
  unfold find? put
  by_cases same : other = place
  · rw [if_pos same,if_neg (same ▸ below),List.find?_cons_of_pos (by simpa using same.symm)]
    rfl
  · have apart : ¬ place = other := fun eq => same eq.symm
    have kept : (tree.entries.filter (·.1 ≠ place)).find? (·.1 = other) = tree.entries.find? (·.1 = other) := by
      rw [List.find?_filter]
      congr 1
      funext stored
      by_cases found : stored.1 = other
      · simp [found,same]
      · simp [found]
    rw [if_neg same,List.find?_cons_of_neg (by simpa using apart),kept]

theorem file?_put (tree : FileTree β) {place : Place} (below : place ≠ []) (content : β) (other : Place) :
    (tree.put place (.file content)).file? other = if other = place then some content else tree.file? other := by
  unfold file?
  rw [find?_put tree below]
  by_cases same : other = place
  · rw [if_pos same,if_pos same]
    rfl
  · rw [if_neg same,if_neg same]

theorem file?_makeFolders (tree : FileTree β) (here : Place) (names : List String) (place : Place) :
    (tree.makeFolders here names).2.file? place = tree.file? place := by
  induction names generalizing tree here with
  | nil => rfl
  | cons name rest ih =>
    have made (missing : tree.find? (here ++ [name]) = none) :
        (tree.put (here ++ [name]) .folder).file? place = tree.file? place := by
      unfold file?
      rw [find?_put tree (by simp)]
      by_cases same : place = here ++ [name]
      · rw [if_pos same,same,missing]
        rfl
      · rw [if_neg same]
    unfold makeFolders
    split
    · exact ih tree here
    · split
      · exact ih tree here.dropLast
      · split
        · rfl
        · dsimp only
          split
          · exact ih tree (here ++ [name])
          · rfl
          · rename_i missing
            rw [ih,made missing]

theorem file?_create (tree : FileTree β) (path : Path) (content : β) (place : Place) :
    (tree.create path content).2.file? place =
      if (tree.create path content).1 = some place then some content else tree.file? place := by
  have folders := tree.file?_makeFolders [] path.parent.names place
  unfold create
  generalize tree.makeFolders [] path.parent.names = made at folders ⊢
  obtain ⟨reached,left⟩ := made
  by_cases short : path.parent.fits = true
  · rw [if_pos short]
    cases reached with
    | none => exact folders
    | some folder =>
      cases path.fileName? with
      | none => exact folders
      | some name =>
        dsimp only at folders ⊢
        split
        · rw [file?_put left (by simp),folders]
          simp only [Option.some.injEq,eq_comm]
        · exact folders
  · rw [if_neg short]
    rfl

theorem makeFolders_place {tree : FileTree β} {here place : Place} {names : List String}
    (down : ∀ name ∈ names, Path.isIdle name = false ∧ name ≠ "..")
    (reached : (tree.makeFolders here names).1 = some place) : place = here ++ names := by
  induction names generalizing tree here with
  | nil =>
    cases reached
    exact (List.append_nil _).symm
  | cons name rest ih =>
    obtain ⟨busy,proper⟩ := down name List.mem_cons_self
    have later : ∀ name ∈ rest, Path.isIdle name = false ∧ name ≠ ".." :=
      fun other member => down other (List.mem_cons_of_mem name member)
    have passed {left : FileTree β} (reached : (left.makeFolders (here ++ [name]) rest).1 = some place) :
        place = here ++ name :: rest := by
      rw [ih later reached,List.append_assoc]
      rfl
    unfold makeFolders at reached
    rw [if_neg (by simp [busy]),if_neg proper] at reached
    split at reached
    · cases reached
    · dsimp only at reached
      split at reached
      · exact passed reached
      · cases reached
      · exact passed reached

theorem create_place {tree : FileTree β} {path : Path} {content : β} {place : Place}
    (down : ∀ name ∈ path.parent.names, Path.isIdle name = false ∧ name ≠ "..")
    (created : (tree.create path content).1 = some place) :
    ∃ name, path.fileName? = some name ∧ place = path.parent.names ++ [name] := by
  unfold create at created
  split at created
  · cases made : tree.makeFolders [] path.parent.names with
    | mk reached left =>
      rw [made] at created
      cases reached with
      | none => cases created
      | some folder =>
        cases named : path.fileName? with
        | none =>
          rw [named] at created
          cases created
        | some name =>
          rw [named] at created
          dsimp only at created
          split at created
          · cases created
            have stands := makeFolders_place down (congrArg Prod.fst made)
            exact ⟨name,rfl,congrArg (· ++ [name]) stands⟩
          · cases created
  · cases created

theorem modify_exact (tree : FileTree β) (place : Place) (change : β → β) : tree.modify place change =
    match tree.file? place with
    | some content => tree.put place (.file (change content))
    | none => tree := by
  unfold modify file?
  cases tree.find? place with
  | none => rfl
  | some entry => cases entry <;> rfl

theorem file?_modify (tree : FileTree β) (place : Place) (change : β → β) (other : Place) :
    (tree.modify place change).file? other =
      if other = place then (tree.file? other).map change else tree.file? other := by
  rw [modify_exact]
  cases held : tree.file? place with
  | none =>
    dsimp only
    split
    · rename_i same
      rw [same,held]
      rfl
    · rfl
  | some content =>
    have below : place ≠ [] := by
      rintro rfl
      cases held
    dsimp only
    rw [file?_put tree below]
    split
    · rename_i same
      rw [same,held]
      rfl
    · rfl

end Headway.FileTree
