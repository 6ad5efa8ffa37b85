namespace Headway

abbrev Place := List String

structure Path where
  fromTop : Bool
  names : List String
deriving Repr, DecidableEq

namespace Path

def ofText (text : String) : Path :=
  match text.splitOn "/" with
  | "" :: name :: rest => ⟨true, name :: rest⟩
  | names => ⟨false, names⟩

def text (path : Path) : String :=
  (if path.fromTop then "/" else "") ++ "/".intercalate path.names

def join (folder path : Path) : Path :=
  if path.fromTop then path else ⟨folder.fromTop, folder.names ++ path.names⟩

def isIdle (name : String) : Bool := name = "" || name = "."

def withoutIdleEnd (names : List String) : List String :=
  (names.reverse.dropWhile isIdle).reverse

def parent (path : Path) : Path :=
  ⟨path.fromTop, withoutIdleEnd (withoutIdleEnd path.names).dropLast⟩

def fits (path : Path) : Bool :=
  path.text.utf8ByteSize < 4096 && path.text.toList.all (· ≠ '\x00')

-- A name of a file has no more than 255 bytes.
def fileName? (path : Path) : Option String :=
  path.names.getLast?.filter fun name => !isIdle name && name ≠ ".." && name.utf8ByteSize < 256

end Path

inductive Entry (β : Type) where
  | folder
  | file (content : β)

structure FileTree (β : Type) where
  entries : List (Place × Entry β)

namespace FileTree
variable {β : Type}

def empty : FileTree β := ⟨[]⟩

def find? (tree : FileTree β) (place : Place) : Option (Entry β) :=
  if place = [] then some .folder
  else (tree.entries.find? (·.1 = place)).map (·.2)

def put (tree : FileTree β) (place : Place) (entry : Entry β) : FileTree β :=
  ⟨(place, entry) :: tree.entries.filter (·.1 ≠ place)⟩

def isFolder (tree : FileTree β) (place : Place) : Bool :=
  match tree.find? place with
  | some .folder => true
  | _ => false

-- Where names lead from a place on. Only the last of them may name something that is not there.
def resolve (tree : FileTree β) (here : Place) : List String → Option Place
  | [] => some here
  | name :: rest =>
      if !tree.isFolder here then none
      else if Path.isIdle name then tree.resolve here rest
      else if name = ".." then tree.resolve here.dropLast rest
      else tree.resolve (here ++ [name]) rest

def lookup? (tree : FileTree β) (here : Place) (path : Path) : Option (Entry β) :=
  if path.fits && path.text ≠ "" then
    (tree.resolve (if path.fromTop then [] else here) path.names).bind tree.find?
  else none

-- Folders made before a failure stay.
def makeFolders (tree : FileTree β) (here : Place) : List String → Option Place × FileTree β
  | [] => (some here, tree)
  | name :: rest =>
      if Path.isIdle name then tree.makeFolders here rest
      else if name = ".." then tree.makeFolders here.dropLast rest
      else if 255 < name.utf8ByteSize then (none, tree)
      else
        let next := here ++ [name]
        match tree.find? next with
        | some .folder => tree.makeFolders next rest
        | some (.file _) => (none, tree)
        | none => (tree.put next .folder).makeFolders next rest

def create (tree : FileTree β) (path : Path) (content : β) : Option Place × FileTree β :=
  if path.parent.fits then
    match tree.makeFolders [] path.parent.names, path.fileName? with
    | (some folder, tree), some name =>
        let place := folder ++ [name]
        if path.fits && !tree.isFolder place then (some place, tree.put place (.file content))
        else (none, tree)
    | (_, tree), _ => (none, tree)
  else (none, tree)

def modify (tree : FileTree β) (place : Place) (change : β → β) : FileTree β :=
  match tree.find? place with
  | some (.file content) => tree.put place (.file (change content))
  | _ => tree

end FileTree

inductive ReadError where
  | missing
  | unreadable
deriving Repr, DecidableEq

abbrev Disk := FileTree ByteArray

def Disk.readText (disk : Disk) (here : Place) (path : Path) : Except ReadError String :=
  match disk.lookup? here path with
  | none => .error .missing
  | some .folder => .error .unreadable
  | some (.file bytes) =>
      match String.fromUTF8? bytes with
      | some text => .ok text
      | none => .error .unreadable

end Headway
