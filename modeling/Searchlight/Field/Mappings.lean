import Searchlight.Field.Basic

/-!
# Mappings of an index

Of several mappings with one name the first is kept. A name finds the mapping of that name; if there
is none, the first mapping that has the name as an alias.
-/

namespace Searchlight

structure Mappings where
  fields : List FieldMapping

namespace Mappings

/-- Drops mappings whose name is in `seen` or occurs earlier. -/
def distinct (seen : List String) : List FieldMapping → List FieldMapping
  | [] => []
  | f :: rest =>
    if seen.contains f.name then distinct seen rest else f :: distinct (f.name :: seen) rest

def ofFields (fields : List FieldMapping) : Mappings :=
  ⟨distinct [] fields⟩

/-- Every name with its mapping, in order of precedence. -/
def index (m : Mappings) : List (String × FieldMapping) :=
  m.fields.map (fun f => (f.name, f)) ++
    m.fields.flatMap fun f => f.aliases.map (·, f)

def lookup (m : Mappings) (name : String) : Option FieldMapping :=
  m.index.lookup name

end Mappings

end Searchlight
