import Searchlight.Field.Document
import Searchlight.File.Tree
import Searchlight.Toml.Write

/-!
# Configuration

The settings in effect, where they come from, and what can go wrong on the way to them.
-/

namespace Searchlight

namespace Config

/-- Name of a configuration file in its directory. -/
def fileName : String := ".ftq.toml"

structure IndexSettings where
  name : String := "default"
  defaultField : Option String := none
  asFilter : Bool := false
  /-- Canonical path of a mapping document. -/
  mapping : Option String := none
  deriving DecidableEq

inductive FieldFault where
  | emptyName
  | emptyPath
  | emptyNested
  | ownAlias
  deriving DecidableEq

namespace FieldFault

def reason : FieldFault → String
  | emptyName => "field name is empty"
  | emptyPath => "path is empty"
  | emptyNested => "nested path is empty"
  | ownAlias => "field lists itself as an alias"

end FieldFault

inductive Error where
  | unreadable (path : String) (fault : FileFault)
  | notToml (path : String)
  | notJson (path : String)
  | invalidMapping (fault : Field.Document.Fault)
  | invalidField (name : String) (fault : FieldFault)
  | mappingNotFile (path : String)
  | unresolved (path : String) (fault : FileFault)
  | noHome
  deriving DecidableEq

namespace Error

/-- What is wrong with a document that cannot be read as TOML or JSON is left out: a fixed text stands
in its place. -/
def message : Error → String
  | unreadable path fault => "failed to read " ++ path ++ ": " ++ fault.message
  | notToml path => "failed to parse config file " ++ path ++ ": not a valid configuration"
  | notJson path => "failed to parse mapping file " ++ path ++ ": not valid JSON"
  | invalidMapping fault => fault.message
  | invalidField name fault => "invalid field '" ++ name ++ "': " ++ fault.reason
  | mappingNotFile path => "mapping path is not a file: " ++ path
  | unresolved path fault => "failed to resolve path " ++ path ++ ": " ++ fault.message
  | noHome => "could not determine home directory"

end Error

end Config

structure Config where
  index : Config.IndexSettings := {}
  /-- Fields of the configuration files, in order of names. -/
  fields : List FieldMapping := []
  /-- Directory of the nearest configuration file. -/
  directory : Option String := none
  /-- The configuration files, nearest first. -/
  sources : List String := []

namespace Config

/-- The files and the home directory that configuration is read from. -/
structure Place where
  files : FileTree
  home : Option String

/-- The fields of a mapping document. -/
def readMapping (files : FileTree) (path : String) : Except Error (List FieldMapping) :=
  match files.read path with
  | .error fault => .error (.unreadable path fault)
  | .ok content =>
    match Json.read? content with
    | none => .error (.notJson path)
    | some document => (Field.Document.fields document).mapError .invalidMapping

/-- The mappings in effect: fields of the configuration files before those of the mapping
document. -/
def mappings (files : FileTree) (c : Config) : Except Error Mappings :=
  match c.index.mapping with
  | none => .ok (Mappings.ofFields c.fields)
  | some path => (readMapping files path).map fun fields => Mappings.ofFields (c.fields ++ fields)

/-! ## The configuration as a configuration file -/

open Toml

def optionalLine (key : String) : Option String → List Char
  | none => []
  | some s => line key (writeString s.toList)

def indexText (s : IndexSettings) : List Char :=
  "[index]\n".toList ++ line "name" (writeString s.name.toList) ++
    optionalLine "default_field" s.defaultField ++
    line "as_filter" (if s.asFilter then "true" else "false").toList ++
    optionalLine "mapping" s.mapping

/-- The section of a field. Its path is left out where it is the name. -/
def fieldText (f : FieldMapping) : List Char :=
  "\n[fields.".toList ++ writeKey f.name.toList ++ "]\n".toList ++
    line "type" (writeString f.type.name.toList) ++
    optionalLine "analyzer" f.analyzer ++
    (if f.aliases.isEmpty then []
     else line "aliases" (writeStrings (f.aliases.map String.toList))) ++
    optionalLine "nested" f.nested ++
    optionalLine "path" (if f.path = f.name then none else some f.path)

/-- A configuration file that says what is in effect. -/
def toToml (c : Config) : String :=
  String.ofList (indexText c.index ++
    if c.fields.isEmpty then "\n[fields]\n".toList else c.fields.flatMap fieldText)

end Config

end Searchlight
