import Searchlight.Query.Basic
import Searchlight.Text.Quoted

/-!
# Outlines of queries

One line for each node, indented by two spaces for each level. The clause lists of a boolean query
stand under their labels; empty ones are left out.
-/

namespace Searchlight

open Text

namespace Query

def indent (depth : Nat) : String :=
  String.ofList (List.replicate (2 * depth) ' ')

def call (name : String) (arguments : List String) : String :=
  name ++ "(" ++ ", ".intercalate arguments ++ ")"

end Query

def Value.outline : Value → String
  | .text s => quoted s
  | .integer n => toString n
  | .float x => x.text
  | .boolean b => if b then "true" else "false"

namespace Query

def boundOutline (inclusive exclusive : String) : Bound Value → List String
  | .unbounded => []
  | .inclusive v => [inclusive ++ "=" ++ v.outline]
  | .exclusive v => [exclusive ++ "=" ++ v.outline]

/-- The line of a query without its indentation. -/
def headline : Query → String
  | all => "MatchAll"
  | term f v => call "Term" [f.path, v.outline]
  | fullText f s => call "Match" [f.path, quoted s]
  | phrase f s slop =>
    call "Phrase" ([f.path, quoted s] ++ if 0 < slop then ["slop=" ++ slop.repr] else [])
  | range f lower upper =>
    call "Range" (f.path :: boundOutline "gte" "gt" lower ++ boundOutline "lte" "lt" upper)
  | wildcard f p => call "Wildcard" [f.path, quoted p]
  | fuzzy f s distance =>
    call "Fuzzy" ([f.path, quoted s] ++
      match distance with
      | some d => ["distance=" ++ d.repr]
      | none => [])
  | regex f p => call "Regex" [f.path, quoted p]
  | .exists f => call "Exists" [f.path]
  | nested path _ => call "Nested" [path]
  | bool _ _ _ _ => "Bool"
  | boost _ factor => call "Boost" [factor.text]

/-- The lines of a clause list under its label. -/
def clauseOutline (depth : Nat) (label : String) (lines : List String) : List String :=
  if lines.isEmpty then [] else (indent depth ++ label ++ ":") :: lines

mutual

def outlineAt (depth : Nat) (q : Query) : List String :=
  (indent depth ++ q.headline) ::
    match q with
    | nested _ inner | boost inner _ => outlineAt (depth + 1) inner
    | bool must filter should mustNot =>
      clauseOutline (depth + 1) "must" (outlinesAt (depth + 2) must) ++
        clauseOutline (depth + 1) "filter" (outlinesAt (depth + 2) filter) ++
        clauseOutline (depth + 1) "should" (outlinesAt (depth + 2) should) ++
        clauseOutline (depth + 1) "must_not" (outlinesAt (depth + 2) mustNot)
    | _ => []

def outlinesAt (depth : Nat) : List Query → List String
  | [] => []
  | q :: rest => outlineAt depth q ++ outlinesAt depth rest

end

/-- The outline, its lines separated by line feeds. -/
def outline (q : Query) : String := "\n".intercalate (outlineAt 0 q)

end Query

end Searchlight
