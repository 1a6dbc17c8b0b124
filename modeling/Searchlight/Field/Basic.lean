/-!
# Fields of an index

A field has a name that queries use, a path under which the index stores it, and a type. A mapping
adds further names for it.
-/

namespace Searchlight

inductive FieldType where
  | text
  | keyword
  | long
  | double
  | date
  | boolean
  deriving DecidableEq

namespace FieldType

def name : FieldType → String
  | text => "text"
  | keyword => "keyword"
  | long => "long"
  | double => "double"
  | date => "date"
  | boolean => "boolean"

/-- Type names of configuration files. -/
def ofConfigName? : String → Option FieldType
  | "text" => some text
  | "keyword" => some keyword
  | "long" | "integer" | "short" | "byte" => some long
  | "double" | "float" | "half_float" | "scaled_float" => some double
  | "date" => some date
  | "boolean" => some boolean
  | _ => none

/-- Type names of mapping documents, which know one older name more. -/
def ofDocumentName? (name : String) : Option FieldType :=
  if name = "string" then some text else ofConfigName? name

/-- Patterns and fuzzy terms apply to strings only. -/
def isString : FieldType → Bool
  | text | keyword => true
  | _ => false

/-- Ranges apply to ordered types only. -/
def isOrdered : FieldType → Bool
  | boolean => false
  | _ => true

/-- The analyzer in effect where `explicit` is configured. -/
def analyzerName (type : FieldType) (explicit : Option String) : String :=
  match explicit, type with
  | some analyzer, _ => analyzer
  | none, text => "standard"
  | none, _ => "keyword"

end FieldType

structure Field where
  name : String
  path : String
  type : FieldType
  analyzer : Option String := none
  /-- Path of the nested object that the field lives in. -/
  nested : Option String := none
  deriving DecidableEq

def Field.analyzerName (f : Field) : String :=
  f.type.analyzerName f.analyzer

structure FieldMapping extends Field where
  aliases : List String := []
  deriving DecidableEq

end Searchlight
