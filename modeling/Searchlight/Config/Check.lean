import Searchlight.Config.Basic

/-!
# Checking configuration

Definitions that load but would surprise a user: nothing to search, names that lead elsewhere,
nested paths that do not enclose their fields, and analyzers that do not exist.
-/

namespace Searchlight

namespace Config

inductive Warning where
  | noFields
  | unmappedDefault (field : String)
  | aliasCollision (name field other : String)
  | nestedNotPrefix (field nested path : String)
  | unknownAnalyzer (field analyzer : String)
  deriving DecidableEq

namespace Warning

def message : Warning → String
  | noFields => "no fields are mapped"
  | unmappedDefault field => "default field '" ++ field ++ "' is not mapped"
  | aliasCollision name field other =>
    "alias '" ++ name ++ "' of field '" ++ field ++ "' collides with field '" ++ other ++ "'"
  | nestedNotPrefix field nested path =>
    "field '" ++ field ++ "' is nested under '" ++ nested ++ "' but its path is '" ++ path ++ "'"
  | unknownAnalyzer field analyzer =>
    "field '" ++ field ++ "' uses unknown analyzer '" ++ analyzer ++ "'"

end Warning

def knownAnalyzers : List String := ["standard", "simple", "whitespace", "keyword"]

/-- Goes through the aliases of a field. `owners` tells which field each name belongs to so far; a
name without an owner goes to this field. -/
def claimAliases (field : String) (owners : List (String × String)) :
    List String → List (String × String) × List Warning
  | [] => (owners, [])
  | name :: rest =>
    match owners.lookup name with
    | none => claimAliases field ((name, field) :: owners) rest
    | some other =>
      let (owners, warnings) := claimAliases field owners rest
      (owners, if other = field then warnings else .aliasCollision name field other :: warnings)

def claimAll (owners : List (String × String)) : List FieldMapping → List Warning
  | [] => []
  | f :: rest =>
    let (owners, warnings) := claimAliases f.name owners f.aliases
    warnings ++ claimAll owners rest

def aliasCollisions (m : Mappings) : List Warning :=
  claimAll (m.fields.map fun f => (f.name, f.name)) m.fields

def fieldWarnings (f : FieldMapping) : List Warning :=
  (match f.nested with
    | some nested =>
      if (nested ++ ".").toList.isPrefixOf f.path.toList then []
      else [.nestedNotPrefix f.name nested f.path]
    | none => []) ++
  match f.analyzer with
  | some analyzer =>
    if knownAnalyzers.contains analyzer then [] else [.unknownAnalyzer f.name analyzer]
  | none => []

/-- All warnings about a configuration with its mappings. -/
def warnings (defaultField : Option String) (m : Mappings) : List Warning :=
  if m.fields.isEmpty then [.noFields]
  else
    (match defaultField with
      | some field => if (m.lookup field).isNone then [.unmappedDefault field] else []
      | none => []) ++
    aliasCollisions m ++ m.fields.flatMap fieldWarnings

end Config

end Searchlight
