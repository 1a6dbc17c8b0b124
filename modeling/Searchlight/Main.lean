import Searchlight.Command.Run

/-!
# The program

Takes a picture of the files that a command may look at, runs the command on it, and writes what the
command has changed.
-/

namespace Searchlight

/-- Adds what is found at a path, and the directories on the way. -/
def lookAt (files : FileTree) (path : String) : IO FileTree := do
  let mut files := files
  for p in (Path.ancestors path).reverse do
    try
      let real ← IO.FS.realPath p
      let places := [FileTree.locationOf p, FileTree.locationOf real.toString]
      if ← real.isDir then
        for place in places do
          files := files.makeDirectories place
      else
        let entry ← try pure (FileEntry.file (← IO.FS.readFile p)) catch _ => pure .binary
        for place in places do
          files := (files.makeDirectories place.tail).put place entry
    catch _ => pure ()
  return files

/-- The configuration files that may count in a directory. -/
def configPaths (home : Option String) (directory : String) : List String :=
  (Path.ancestors directory ++ home.toList).map (Path.join · Config.fileName)

/-- The mapping documents that configuration files name. -/
def mappingPaths (home : Option String) (files : FileTree) (paths : List String) : List String :=
  paths.filterMap fun path =>
    match Config.fileAt files path with
    | .error _ => none
    | .ok file => do
      let named ← (← file.index).mapping
      let expanded ← (Config.expandHome home named).toOption
      some (Path.join (Config.directoryOf path) expanded)

/-- The mapping document that a command names. -/
def commandPaths (directory : String) : Command → List String
  | .documents _ o _ | .inspect _ o _ | .highlight _ _ o _ =>
    o.mapping.toList.map (Path.join directory)
  | .fields mapping _ => mapping.toList.map (Path.join directory)
  | .create _ _ | .check | .config => []

def runCommand (c : Command) : IO UInt32 := do
  let directory := (← IO.currentDir).toString
  let home ← IO.getEnv "HOME"
  let configs := configPaths home directory
  let mut files ← lookAt {} directory
  for path in configs do
    files ← lookAt files path
  for path in mappingPaths home files configs ++ commandPaths directory c do
    files ← lookAt files path
  let (o, after) := Command.run ⟨files, home⟩ directory c
  for path in configs do
    match after.entry? path with
    | some (.file content) =>
      if files.entry? path ≠ some (.file content) then IO.FS.writeFile path content
    | _ => pure ()
  (← IO.getStdout).putStr o.out
  (← IO.getStderr).putStr o.errorOutput
  return o.status.toUInt32

end Searchlight

open Searchlight in
def main (args : List String) : IO UInt32 := do
  match Command.ofArguments args with
  | .ok c => runCommand c
  | .error fault =>
    if fault.status = 0 then IO.println fault.message
    else IO.eprintln ("error: " ++ fault.message)
    return fault.status.toUInt32
