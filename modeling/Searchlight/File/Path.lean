import Searchlight.Text.Search

/-!
# File paths

Paths are text with slashes between their parts. An absolute path starts with a slash. Two spellings
of a path are the same if they differ in idle parts only.
-/

namespace Searchlight

namespace Path

def isAbsolute (path : String) : Bool :=
  path.toList.head? == some '/'

/-- The parts of a text between slashes. -/
def splitSlashes (path : List Char) : List (List Char) := Text.splitOn '/' path

/-- A path inside a directory, unless it is absolute itself. -/
def join (directory path : String) : String :=
  if isAbsolute path then path
  else if directory.toList.isEmpty then path
  else if directory.toList.getLast? = some '/' then directory ++ path
  else directory ++ "/" ++ path

/-- Drops parts at the end that say nothing: empty ones, and dots unless the path is one. -/
def dropIdle (absolute : Bool) : List (List Char) → List (List Char)
  | [] => []
  | part :: parts =>
    match dropIdle true parts with
    | [] =>
      if part.isEmpty || (part = ['.'] && absolute) then [] else [part]
    | kept => part :: kept

/-- The directory that a path lies in; the root and the empty path lie in none. -/
def parent? (path : String) : Option String :=
  let absolute := isAbsolute path
  let parts := splitSlashes (if absolute then path.toList.drop 1 else path.toList)
  match dropIdle absolute parts with
  | [] => none
  | kept =>
    let above := ['/'].intercalate (dropIdle absolute kept.dropLast)
    some (String.ofList (if absolute then '/' :: above else above))

/-- A path and the directories above it, nearest first. -/
def ancestors (path : String) : List String :=
  go path.length path
where
  go : Nat → String → List String
    | 0, p => [p]
    | fuel + 1, p =>
      match parent? p with
      | none => [p]
      | some above => p :: go fuel above

/-- The parts of a path that lead somewhere. Empty parts and dots lead nowhere, but a dot at the
start of a relative path says that it is one. -/
def steps (path : String) : List (List Char) :=
  let parts := (splitSlashes path.toList).filter (!·.isEmpty)
  match parts with
  | ['.'] :: rest =>
    if isAbsolute path then rest.filter (· ≠ ['.']) else ['.'] :: rest.filter (· ≠ ['.'])
  | parts => parts.filter (· ≠ ['.'])

/-- Whether two paths take the same steps from the same start. -/
def same (p q : String) : Bool :=
  isAbsolute p == isAbsolute q && steps p == steps q

end Path

end Searchlight
