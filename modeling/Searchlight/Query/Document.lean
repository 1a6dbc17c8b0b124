import Searchlight.Query.Basic
import Searchlight.Json.Write

/-!
# Wire documents

The JSON document of a query. A leaf is an object of its path inside an object of its kind; the
boost of a query joins the parameters of what it boosts, and boosts of boosts multiply. Numbers that
are not finite have no JSON form. `normalize` removes from a document what leaves its meaning alone.
-/

namespace Searchlight

/-- Where a document would have needed a number that is not finite. -/
inductive NonFinite where
  | value
  | boost
  deriving DecidableEq

structure DocumentError where
  node : String
  place : NonFinite
  number : Double
  deriving DecidableEq

namespace DocumentError

def reason (e : DocumentError) : String :=
  (match e.place with
    | .value => "value "
    | .boost => "boost ") ++ e.number.text ++ " is not a finite number"

def message (e : DocumentError) : String :=
  "cannot serialize " ++ e.node ++ " node: " ++ e.reason

end DocumentError

namespace Document

abbrev Members := List (String × Json)

def float (node : String) (place : NonFinite) (x : Double) : Except DocumentError Json :=
  if x.isFinite then .ok (.float x) else .error ⟨node, place, x⟩

def value (node : String) : Value → Except DocumentError Json
  | .text s => .ok (.string s)
  | .integer n => .ok (.integer n)
  | .float x => float node .value x
  | .boolean b => .ok (.bool b)

/-- One end of a range under its name, or nothing where it is open. -/
def bound (node inclusive exclusive : String) : Bound Value → Except DocumentError Members
  | .unbounded => .ok []
  | .inclusive v => (value node v).map fun j => [(inclusive, j)]
  | .exclusive v => (value node v).map fun j => [(exclusive, j)]

/-- The boost among the parameters; a factor of one is left out. -/
def boostMember (node : String) : Option Single → Except DocumentError Members
  | none => .ok []
  | some factor =>
    if factor.same .one then .ok []
    else (float node .boost factor.widen).map fun j => [("boost", j)]

/-- A document of parameters, under the path of a field if there is one. -/
def node (kind : String) (path : Option String) (boost : Option Single)
    (params : Members) : Except DocumentError Json :=
  (boostMember kind boost).map fun last =>
    let body := Json.object (params ++ last)
    .object [(kind, match path with
      | some path => .object [(path, body)]
      | none => body)]

def natural (n : Nat) : Json := .integer n

/-- A clause list under its label, or nothing where it is empty. -/
def clause (label : String) (items : List Json) : Members :=
  if items.isEmpty then [] else [(label, .array items)]

end Document

namespace Query

open Document

mutual

/-- The document of a query that a boost above it multiplies. -/
def documentWith (outer : Option Single) : Query → Except DocumentError Json
  | all => node "match_all" none outer []
  | term f v => do
    let v ← Document.value "term" v
    node "term" f.path outer [("value", v)]
  | fullText f s => node "match" f.path outer [("query", .string s)]
  | phrase f s slop =>
    node "match_phrase" f.path outer
      (("query", .string s) :: if 0 < slop then [("slop", natural slop)] else [])
  | range f lower upper => do
    let l ← Document.bound "range" "gte" "gt" lower
    let u ← Document.bound "range" "lte" "lt" upper
    node "range" f.path outer (l ++ u)
  | wildcard f p => node "wildcard" f.path outer [("value", .string p)]
  | fuzzy f s distance =>
    node "fuzzy" f.path outer
      (("value", .string s) ::
        match distance with
        | some d => [("fuzziness", natural d)]
        | none => [])
  | regex f p => node "regexp" f.path outer [("value", .string p)]
  | .exists f => node "exists" none outer [("field", .string f.path)]
  | nested path q => do
    let inner ← documentWith none q
    node "nested" none outer [("path", .string path), ("query", inner)]
  | bool must filter should mustNot => do
    let m ← documents must
    let f ← documents filter
    let s ← documents should
    let n ← documents mustNot
    node "bool" none outer
      (clause "must" m ++ clause "filter" f ++ clause "should" s ++ clause "must_not" n)
  | boost q factor =>
    documentWith (some (match outer with
      | some o => o.mul factor
      | none => factor)) q

def documents : List Query → Except DocumentError (List Json)
  | [] => .ok []
  | q :: rest => do
    let d ← documentWith none q
    let ds ← documents rest
    .ok (d :: ds)

end

def document (q : Query) : Except DocumentError Json :=
  documentWith none q

end Query

namespace Json

/-- Members that do not change what a document asks for: flags of the engine and boosts of one. -/
def isRedundant (name : String) (v : Json) : Bool :=
  name == "disable_coord" || name == "adjust_pure_negative" || (name == "boost" && v.isOne)

mutual

/-- A document without redundant members, at any depth. -/
def normalize : Json → Json
  | array items => array (normalizeItems items)
  | object members => object (normalizeMembers members)
  | null => null
  | bool b => bool b
  | integer n => integer n
  | float x => float x
  | string s => string s

def normalizeItems : List Json → List Json
  | [] => []
  | v :: rest => normalize v :: normalizeItems rest

def normalizeMembers : List (String × Json) → List (String × Json)
  | [] => []
  | (name, v) :: rest =>
    if isRedundant name v then normalizeMembers rest
    else (name, normalize v) :: normalizeMembers rest

end

end Json

end Searchlight
