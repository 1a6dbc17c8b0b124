import Searchlight.File.Path

/-!
# File trees

The files and directories that a program can see. An entry is found by walking down from the root,
part by part, and every part on the way has to be a directory.
-/

namespace Searchlight

inductive FileFault where
  | notFound
  | notDirectory
  | isDirectory
  | notText
  | nulByte
  deriving DecidableEq

namespace FileFault

def message : FileFault → String
  | notFound => "No such file or directory (os error 2)"
  | notDirectory => "Not a directory (os error 20)"
  | isDirectory => "Is a directory (os error 21)"
  | notText => "stream did not contain valid UTF-8"
  | nulByte => "file name contained an unexpected NUL byte"

end FileFault

inductive FileEntry where
  | file (content : String)
  /-- A file whose bytes are no text. -/
  | binary
  | directory
  deriving DecidableEq

/-- Where an entry is: the names on the way from the root, the last one first. -/
abbrev Location := List (List Char)

structure FileTree where
  entries : List (Location × FileEntry) := []

namespace FileTree

/-- The entry at a location. The root is always there. -/
def entryAt? (t : FileTree) : Location → Option FileEntry
  | [] => some .directory
  | location => t.entries.lookup location

def isDirectoryAt (t : FileTree) (location : Location) : Bool :=
  t.entryAt? location == some .directory

/-- Walks down from a location. Empty parts and dots stay where they are, but only a directory can
be stayed in. -/
def walk (t : FileTree) (location : Location) : List (List Char) → Except FileFault Location
  | [] => .ok location
  | part :: parts =>
    if !t.isDirectoryAt location then .error .notDirectory
    else if part.isEmpty || part = ['.'] then walk t location parts
    else if part = ['.', '.'] then walk t location.tail parts
    else if (t.entryAt? (part :: location)).isSome then walk t (part :: location) parts
    else .error .notFound

/-- Where an absolute path leads. -/
def locate (t : FileTree) (path : String) : Except FileFault Location :=
  if path.toList.contains '\x00' then .error .nulByte
  else if !Path.isAbsolute path then .error .notFound
  else t.walk [] (Path.splitSlashes (path.toList.drop 1))

def entry? (t : FileTree) (path : String) : Option FileEntry :=
  match t.locate path with
  | .ok location => t.entryAt? location
  | .error _ => none

def exists? (t : FileTree) (path : String) : Bool := (t.entry? path).isSome

def isFile (t : FileTree) (path : String) : Bool :=
  match t.entry? path with
  | some (.file _) | some .binary => true
  | _ => false

/-- The path of a location, without idle parts. -/
def pathOf (location : Location) : String :=
  String.ofList ('/' :: ['/'].intercalate location.reverse)

/-- The one path of an entry that has no idle parts. -/
def canonicalize (t : FileTree) (path : String) : Except FileFault String :=
  (t.locate path).map pathOf

def read (t : FileTree) (path : String) : Except FileFault String :=
  match t.locate path with
  | .error fault => .error fault
  | .ok location =>
    match t.entryAt? location with
    | some (.file content) => .ok content
    | some .binary => .error .notText
    | some .directory => .error .isDirectory
    | none => .error .notFound

/-- Puts an entry at a location, in place of what was there. -/
def put (t : FileTree) (location : Location) (e : FileEntry) : FileTree :=
  ⟨(location, e) :: t.entries.filter (·.1 ≠ location)⟩

/-- The names of a path, from the root on, the last one first. -/
def locationOf (path : String) : Location :=
  ((Path.splitSlashes path.toList).filter fun part => !part.isEmpty && part ≠ ['.']).reverse

/-- Makes a directory and all directories above it. -/
def makeDirectories (t : FileTree) : Location → FileTree
  | [] => t
  | name :: above => (makeDirectories t above).put (name :: above) .directory

/-- Writes a file into a directory that is there. -/
def write (t : FileTree) (path content : String) : FileTree :=
  t.put (locationOf path) (.file content)

/-- Writes a file, in place of one that is there, into a directory that has to be there. -/
def save (t : FileTree) (path content : String) : Except FileFault FileTree :=
  match t.entry? path, Path.parent? path with
  | some .directory, _ | _, none => .error .isDirectory
  | _, some above =>
    match t.locate above with
    | .error fault => .error fault
    | .ok location =>
      if t.isDirectoryAt location then .ok (t.write path content) else .error .notDirectory

/-- Removes an entry and everything below it. -/
def remove (t : FileTree) (path : String) : FileTree :=
  let location := locationOf path
  ⟨t.entries.filter fun (l, _) => !location.isSuffixOf l⟩

end FileTree

end Searchlight
