import Searchlight.Config.Merge

/-!
# Finding and loading configuration

Configuration files are looked for in the working directory and all directories above it. The search
ends at a file that declares itself the root; otherwise the file in the home directory comes last.
-/

namespace Searchlight

namespace Config

def fileAt (files : FileTree) (path : String) : Except Error File :=
  match files.read path with
  | .error fault => .error (.unreadable path fault)
  | .ok content =>
    match File.read? content with
    | none => .error (.notToml path)
    | some file => .ok file

/-- A file that cannot be read is no root. -/
def isRoot (files : FileTree) (path : String) : Bool :=
  match fileAt files path with
  | .ok file => file.root == some true
  | .error _ => false

/-- The configuration files of some directories, up to a root among them, and whether there is
one. -/
def search (files : FileTree) : List String → List String × Bool
  | [] => ([], false)
  | directory :: above =>
    let candidate := Path.join directory fileName
    if files.isFile candidate then
      if isRoot files candidate then ([candidate], true)
      else
        let (found, rooted) := search files above
        (candidate :: found, rooted)
    else search files above

/-- The configuration file in the home directory. -/
def globalFile? (place : Place) : Option String :=
  place.home.map (Path.join · fileName)

/-- The configuration files for a working directory, nearest first. -/
def discover (place : Place) (directory : String) : List String :=
  let (found, rooted) := search place.files (Path.ancestors directory)
  if rooted then found
  else
    match globalFile? place with
    | some path =>
      if place.files.isFile path && !found.any (Path.same path) then found ++ [path] else found
    | none => found

def isGlobal (place : Place) (path : String) : Bool :=
  (globalFile? place).any (Path.same path)

def readSources (files : FileTree) : List String → Except Error (List Source)
  | [] => .ok []
  | path :: rest => do
    let file ← fileAt files path
    let sources ← readSources files rest
    .ok (⟨path, file⟩ :: sources)

def loadFiles (place : Place) (paths : List String) : Except Error Config := do
  merge place (← readSources place.files paths)

def load (place : Place) (directory : String) : Except Error Config :=
  loadFiles place (discover place directory)

end Config

end Searchlight
