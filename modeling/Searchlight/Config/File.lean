import Searchlight.Field.Basic
import Searchlight.Toml.Read

/-!
# Configuration files

What one configuration file says. Every setting is optional, and nothing but the known keys may
stand in it. A section may also be written as the plain list of its values.
-/

namespace Searchlight

namespace Config

structure IndexSection where
  name : Option String := none
  defaultField : Option String := none
  asFilter : Option Bool := none
  mapping : Option String := none
  deriving DecidableEq

structure FieldSection where
  type : FieldType
  analyzer : Option String := none
  aliases : List String := []
  nested : Option String := none
  path : Option String := none
  deriving DecidableEq

/-- Adds an entry to a list in order of names, in place of the one of the same name. -/
def insertNamed {α : Type} (name : String) (v : α) : List (String × α) → List (String × α)
  | [] => [(name, v)]
  | (n, w) :: rest =>
    if n = name then (name, v) :: rest
    else if name < n then (name, v) :: (n, w) :: rest
    else (n, w) :: insertNamed name v rest

structure File where
  /-- No files above this one count. -/
  root : Option Bool := none
  index : Option IndexSection := none
  /-- Field sections in order of names. -/
  fields : Option (List (String × FieldSection)) := none
  deriving DecidableEq

/-! ## Reading -/

/-- An optional setting: absent, or a value that has to be read. -/
def setting {α : Type} (read : Toml → Option α) : Option Toml → Option (Option α)
  | none => some none
  | some v => (read v).map some

def onlyKeys (known : List String) (entries : List (String × Toml)) : Bool :=
  entries.all fun (key, _) => known.contains key

def indexSection (name defaultField asFilter mapping : Option Toml) : Option IndexSection := do
  let name ← setting Toml.string? name
  let defaultField ← setting Toml.string? defaultField
  let asFilter ← setting Toml.boolean? asFilter
  let mapping ← setting Toml.string? mapping
  some ⟨name, defaultField, asFilter, mapping⟩

def readIndex (v : Toml) : Option IndexSection :=
  match v.entries?, v.items? with
  | some es, _ =>
    if onlyKeys ["name", "default_field", "as_filter", "mapping"] es then
      indexSection (es.lookup "name") (es.lookup "default_field") (es.lookup "as_filter")
        (es.lookup "mapping")
    else none
  | none, some items => indexSection items[0]? items[1]? items[2]? items[3]?
  | none, none => none

/-- A type is written as its name, or as an empty table under its name. -/
def readType (v : Toml) : Option FieldType :=
  match v with
  | .string s => FieldType.ofConfigName? s
  | .table _ [(name, .table _ [])] | .table _ [(name, .array [])] => FieldType.ofConfigName? name
  | _ => none

/-- One string, or a list of strings. -/
def readStrings (v : Toml) : Option (List String) :=
  match v with
  | .string s => some [s]
  | v => (v.items?).bind fun items => items.mapM Toml.string?

def fieldSection (type : Toml) (analyzer aliases nested path : Option Toml) :
    Option FieldSection := do
  let type ← readType type
  let analyzer ← setting Toml.string? analyzer
  let aliases ← setting readStrings aliases
  let nested ← setting Toml.string? nested
  let path ← setting Toml.string? path
  some ⟨type, analyzer, aliases.getD [], nested, path⟩

def readField (v : Toml) : Option FieldSection :=
  match v.entries?, v.items? with
  | some es, _ =>
    if onlyKeys ["type", "analyzer", "aliases", "nested", "path"] es then do
      fieldSection (← es.lookup "type") (es.lookup "analyzer") (es.lookup "aliases")
        (es.lookup "nested") (es.lookup "path")
    else none
  | none, some (type :: analyzer :: aliases :: nested :: path :: _) =>
    fieldSection type analyzer aliases nested path
  | none, _ => none

def readFields (v : Toml) : Option (List (String × FieldSection)) := do
  let sections ← (← v.entries?).mapM fun (name, v) => (readField v).map (name, ·)
  some (sections.foldl (fun done (name, f) => insertNamed name f done) [])

def ofEntries (es : List (String × Toml)) : Option File :=
  if onlyKeys ["root", "index", "fields"] es then do
    let root ← setting Toml.boolean? (es.lookup "root")
    let index ← setting readIndex (es.lookup "index")
    let fields ← setting readFields (es.lookup "fields")
    some ⟨root, index, fields⟩
  else none

def File.read? (text : String) : Option File :=
  (Toml.read? text).bind ofEntries

end Config

end Searchlight
