import Headway.Program

namespace Headway.Main

def rootVariable : String := "LONG_PLAN_SW_ROOT"

-- What is there but cannot be read counts as a folder.
def takeOver (disk : Disk) (here : Place) (path : Path) : IO Disk := do
  let start := if path.fromTop then [] else here
  match disk.makeFolders start path.parent.names, path.fileName? with
  | (some folder, made), some name =>
      try
        let bytes ← IO.FS.readBinFile path.text
        return made.put (folder ++ [name]) (.file bytes)
      catch cause =>
        match cause with
        | .noFileOrDirectory .. => return disk
        | _ => return made.put (folder ++ [name]) .folder
  | _, _ => return disk

def launch (arguments : List String) : IO Launch := do
  let current := Path.ofText (← IO.currentDir).toString
  let here := current.names
  let disk := (FileTree.empty.makeFolders [] here).2
  let root := (← IO.getEnv rootVariable).map fun folder => current.join (.ofText folder)
  let disk ← match root with
    | some folder => takeOver disk here (folder.join ⟨false, ["params", "long_plan.toml"]⟩)
    | none => pure disk
  let disk ← match arguments with
    | [path] => takeOver disk here (.ofText path)
    | _ => pure disk
  return ⟨arguments, disk, root, here⟩

def writeArchives (archives : FileTree (Sheet Float)) : IO Unit := do
  if let some folder ← IO.getEnv rootVariable then
    for (path, entry) in archives.entries do
      if let .file sheet := entry then
        let target := "/".intercalate (folder :: "sessions" :: path)
        IO.FS.createDirAll ("/".intercalate (folder :: "sessions" :: path.dropLast))
        IO.FS.writeFile target sheet.csv

end Headway.Main

open Headway in
def main (arguments : List String) : IO UInt32 := do
  let outcome := Program.run (← Main.launch arguments)
  for record in outcome.log do
    IO.println record.line
  Main.writeArchives outcome.archives
  match outcome.error with
  | none => return 0
  | some error =>
      for cause in error.causes do
        IO.eprintln cause
      return 1
