import Searchlight.Expr.Basic
import Searchlight.Text.Quoted

/-!
# Outlines of expressions

One line for each node, indented by two spaces for each level, a field of `_` where a leaf has none.
-/

namespace Searchlight

open Text

namespace Outline

def indent (depth : Nat) : String :=
  String.ofList (List.replicate (2 * depth) ' ')

def bound : Bound String → String
  | .unbounded => "Unbounded"
  | .inclusive v => "Inclusive(" ++ quoted v ++ ")"
  | .exclusive v => "Exclusive(" ++ quoted v ++ ")"

def distance : Option Nat → String
  | none => "None"
  | some n => "Some(" ++ n.repr ++ ")"

def node (name : String) (arguments : List String) : String :=
  name ++ "(" ++ ", ".intercalate arguments ++ ")"

def literal (field : String) : Literal → String
  | .term text => node "Term" [field, quoted text]
  | .phrase text slop => node "Phrase" [field, quoted text, "slop=" ++ slop.repr]
  | .range lower upper => node "Range" [field, bound lower, bound upper]
  | .wildcard pattern => node "Wildcard" [field, quoted pattern]
  | .fuzzy text d => node "Fuzzy" [field, quoted text, distance d]
  | .regex pattern => node "Regex" [field, quoted pattern]

def op : BoolOp → String
  | .and => "And"
  | .or => "Or"
  | .not => "Not"

def line (depth : Nat) (text : String) : String :=
  indent depth ++ text ++ "\n"

end Outline

namespace Expr

mutual

def outlineAt (depth : Nat) : Expr → String
  | leaf field l => Outline.line depth (Outline.literal (field.getD "_") l)
  | inField field body =>
    Outline.line depth (Outline.node "Field" [quoted field]) ++ outlineAt (depth + 1) body
  | bool o operands => Outline.line depth (Outline.op o) ++ outlinesAt (depth + 1) operands
  | boosted body factor =>
    Outline.line depth (Outline.node "Boost" [factor.text]) ++ outlineAt (depth + 1) body

def outlinesAt (depth : Nat) : List Expr → String
  | [] => ""
  | e :: rest => outlineAt depth e ++ outlinesAt depth rest

end

def outline (e : Expr) : String := outlineAt 0 e

end Expr

end Searchlight
