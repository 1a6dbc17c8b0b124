import Searchlight.Number.Shortest

/-!
# JSON values

Objects keep the order in which their members were first named. An integer that fits sixty-four bits
stays an integer; every other number is a double.
-/

namespace Searchlight

inductive Json where
  | null
  | bool (b : Bool)
  | integer (n : Int)
  | float (x : Double)
  | string (s : String)
  | array (items : List Json)
  | object (members : List (String × Json))

namespace Json

/-- Members with one more: a repeated name keeps its place and takes the new value. -/
def insert (name : String) (value : Json) : List (String × Json) → List (String × Json)
  | [] => [(name, value)]
  | (n, v) :: rest => if n = name then (n, value) :: rest else (n, v) :: insert name value rest

def get? (name : String) : Json → Option Json
  | object members => members.lookup name
  | _ => none

def string? : Json → Option String
  | string s => some s
  | _ => none

def members? : Json → Option (List (String × Json))
  | object members => some members
  | _ => none

/-- An integer or a float of value one. -/
def isOne : Json → Bool
  | integer n => n == 1
  | float x => x.same Binary.one
  | _ => false

end Json

end Searchlight
