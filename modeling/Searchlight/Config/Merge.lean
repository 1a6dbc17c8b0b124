import Searchlight.Config.Basic
import Searchlight.Config.File
import Searchlight.Text.Blank

/-!
# Merging configuration files

Files are given nearest first, and a nearer file wins. Index settings are laid over each other from
the farthest file to the nearest; of the sections of one field the nearest counts as a whole.
-/

namespace Searchlight

namespace Config

open Text

/-- A configuration file and its path. -/
structure Source where
  path : String
  file : File

/-- Replaces a tilde at the start by the home directory. -/
def expandHome (home : Option String) (path : String) : Except Error String :=
  match path.toList with
  | ['~'] => inHome []
  | '~' :: '/' :: rest => inHome rest
  | _ => .ok path
where
  inHome (rest : List Char) : Except Error String :=
    match home with
    | none => .error .noHome
    | some home => .ok (if rest.isEmpty then home else Path.join home (String.ofList rest))

/-- The canonical path of a mapping document named in a configuration file of `directory`. -/
def resolveMapping (place : Place) (path directory : String) : Except Error String := do
  let expanded ← expandHome place.home path
  let whole := if Path.isAbsolute expanded then expanded else Path.join directory expanded
  match place.files.canonicalize whole with
  | .error fault => .error (.unresolved whole fault)
  | .ok canonical =>
    if place.files.isFile canonical then .ok canonical else .error (.mappingNotFile canonical)

/-- The directory that paths in a configuration file are relative to. -/
def directoryOf (path : String) : String := (Path.parent? path).getD "."

/-- Lays the settings of a section over others. -/
def layOver (place : Place) (below : IndexSettings) (s : Source) : Except Error IndexSettings :=
  match s.file.index with
  | none => .ok below
  | some section_ => do
    let mapping ←
      match section_.mapping with
      | none => .ok below.mapping
      | some path => (resolveMapping place path (directoryOf s.path)).map some
    .ok {
      name := section_.name.getD below.name
      defaultField := section_.defaultField.or below.defaultField
      asFilter := section_.asFilter.getD below.asFilter
      mapping := mapping }

/-- Index settings of several files, nearest first. -/
def mergeIndex (place : Place) : List Source → Except Error IndexSettings
  | [] => .ok {}
  | s :: farther => do layOver place (← mergeIndex place farther) s

def isBlankText (s : String) : Bool := (trim s.toList).isEmpty

def fieldOf (name : String) (s : FieldSection) : Except FieldFault FieldMapping :=
  if isBlankText name then .error .emptyName
  else if s.path.any isBlankText then .error .emptyPath
  else if s.nested.any isBlankText then .error .emptyNested
  else if s.aliases.contains name then .error .ownAlias
  else .ok {
    name := name
    path := s.path.getD name
    type := s.type
    analyzer := s.analyzer
    nested := s.nested
    aliases := s.aliases }

/-- Adds the fields of a file that are not there yet. -/
def addFields (known : List (String × FieldMapping)) :
    List (String × FieldSection) → Except Error (List (String × FieldMapping))
  | [] => .ok known
  | (name, s) :: rest =>
    if (known.lookup name).isSome then addFields known rest
    else
      match fieldOf name s with
      | .error fault => .error (.invalidField name fault)
      | .ok f => addFields (insertNamed name f known) rest

def mergeFields (known : List (String × FieldMapping)) :
    List Source → Except Error (List (String × FieldMapping))
  | [] => .ok known
  | s :: farther => do
    let known ← addFields known (s.file.fields.getD [])
    mergeFields known farther

/-- The configuration of several files, nearest first. -/
def merge (place : Place) (sources : List Source) : Except Error Config := do
  let index ← mergeIndex place sources
  let fields ← mergeFields [] sources
  .ok {
    index := index
    fields := fields.map (·.2)
    directory := sources.head?.bind fun s => Path.parent? s.path
    sources := sources.map (·.path) }

end Config

end Searchlight
