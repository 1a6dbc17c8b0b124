import Searchlight.Field.Mappings
import Searchlight.Json.Read

/-!
# Mapping documents

A mapping document is a tree of properties. Object and nested properties lead to dotted paths; a
typed property is a field under its path, followed by its multi-fields; an alias is a further name
for the field at its target. Properties of other types are passed over.
-/

namespace Searchlight

namespace Field.Document

inductive Fault where
  | noProperties
  | unmappedAlias (name target : String)
  deriving DecidableEq

namespace Fault

def reason : Fault → String
  | noProperties => "no \"properties\" object found"
  | unmappedAlias name target =>
    "alias '" ++ name ++ "' points at unmapped field '" ++ target ++ "'"

def message (f : Fault) : String := "invalid mapping: " ++ f.reason

end Fault

/-- The fields of a tree of properties, and its aliases with their targets. -/
structure Flattened where
  fields : List FieldMapping := []
  aliases : List (String × String) := []

namespace Flattened

def append (a b : Flattened) : Flattened :=
  ⟨a.fields ++ b.fields, a.aliases ++ b.aliases⟩

instance : Append Flattened := ⟨append⟩

end Flattened

def fieldAt (path : String) (nested : Option String) (type : FieldType) (definition : Json) :
    FieldMapping :=
  { name := path
    path := path
    type := type
    analyzer := (definition.get? "analyzer").bind Json.string?
    nested := nested }

def typeName? (definition : Json) : Option String :=
  (definition.get? "type").bind Json.string?

def multiField? (path : String) (nested : Option String) :
    String × Json → Option FieldMapping
  | (name, definition) =>
    ((typeName? definition).bind FieldType.ofDocumentName?).map fun type =>
      fieldAt (path ++ "." ++ name) nested type definition

/-- A property that holds a value or is an alias, but is no object. -/
def plainProperty (path : String) (nested : Option String) (definition : Json) : Flattened :=
  match typeName? definition with
  | none => {}
  | some "alias" =>
    match (definition.get? "path").bind Json.string? with
    | some target => { aliases := [(path, target)] }
    | none => {}
  | some name =>
    match FieldType.ofDocumentName? name with
    | none => {}
    | some type =>
      let subFields := ((definition.get? "fields").bind Json.members?).getD []
      { fields := fieldAt path nested type definition ::
          subFields.filterMap (multiField? path nested) }

mutual

/-- The property `path`. Nested objects become the scope of what they contain. -/
def property (path : String) (nested : Option String) : Json → Flattened
  | .object members =>
    match inside path nested (typeName? (.object members)) members with
    | some flattened => flattened
    | none => plainProperty path nested (.object members)
  | definition => plainProperty path nested definition

/-- What an object or nested property contains, looked for among its members. -/
def inside (path : String) (nested : Option String) (type : Option String) :
    List (String × Json) → Option Flattened
  | [] => none
  | (name, .object children) :: rest =>
    if name = "properties" then
      if type = some "nested" then some (properties (path ++ ".") (some path) children)
      else if type = none ∨ type = some "object" then
        some (properties (path ++ ".") nested children)
      else none
    else inside path nested type rest
  | (name, _) :: rest => if name = "properties" then none else inside path nested type rest

def properties (above : String) (nested : Option String) : List (String × Json) → Flattened
  | [] => {}
  | (name, definition) :: rest =>
    property (above ++ name) nested definition ++ properties above nested rest

end

/-- Adds a name to the first field of the given path. -/
def attach? (name target : String) : List FieldMapping → Option (List FieldMapping)
  | [] => none
  | f :: rest =>
    if f.path = target then some ({ f with aliases := f.aliases ++ [name] } :: rest)
    else (attach? name target rest).map (f :: ·)

def attachAll : List (String × String) → List FieldMapping → Except Fault (List FieldMapping)
  | [], fields => .ok fields
  | (name, target) :: rest, fields =>
    match attach? name target fields with
    | some fields => attachAll rest fields
    | none => .error (.unmappedAlias name target)

/-- The top properties: directly, under `mappings`, or inside a single named type. -/
def rootProperties? (document : Json) : Option (List (String × Json)) :=
  let mappings := (document.get? "mappings").getD document
  match (mappings.get? "properties").bind Json.members? with
  | some properties => some properties
  | none =>
    match mappings with
    | .object [(_, only)] => (only.get? "properties").bind Json.members?
    | _ => none

/-- The field mappings of a document, in document order. -/
def fields (document : Json) : Except Fault (List FieldMapping) :=
  match rootProperties? document with
  | none => .error .noProperties
  | some top =>
    let flattened := properties "" none top
    attachAll flattened.aliases flattened.fields

end Field.Document

end Searchlight
