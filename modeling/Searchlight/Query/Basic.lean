import Searchlight.Expr.Basic
import Searchlight.Field.Basic

/-!
# Queries

What a search engine is asked: leaves on resolved fields with values of the field's type, nested
objects, boolean combinations and boosts.
-/

namespace Searchlight

inductive Value where
  | text (s : String)
  | integer (n : Int)
  | float (x : Double)
  | boolean (b : Bool)
  deriving DecidableEq

inductive Query where
  | all
  | term (field : Field) (value : Value)
  | fullText (field : Field) (text : String)
  | phrase (field : Field) (text : String) (slop : Nat)
  | range (field : Field) (lower upper : Bound Value)
  | wildcard (field : Field) (pattern : String)
  | fuzzy (field : Field) (text : String) (distance : Option Nat)
  | regex (field : Field) (pattern : String)
  | exists (field : Field)
  | nested (path : String) (query : Query)
  | bool (must filter should mustNot : List Query)
  | boost (query : Query) (factor : Single)

/-- The clause lists of a boolean query. -/
structure Clauses where
  must : List Query := []
  filter : List Query := []
  should : List Query := []
  mustNot : List Query := []

def Clauses.toQuery (c : Clauses) : Query :=
  .bool c.must c.filter c.should c.mustNot

namespace Query

/-- Name of the kind of a query; a boosted query is of the kind of what it boosts. -/
def kind : Query → String
  | all => "match_all"
  | term _ _ => "term"
  | fullText _ _ => "match"
  | phrase _ _ _ => "match_phrase"
  | range _ _ _ => "range"
  | wildcard _ _ => "wildcard"
  | fuzzy _ _ _ => "fuzzy"
  | regex _ _ => "regexp"
  | .exists _ => "exists"
  | nested _ _ => "nested"
  | bool _ _ _ _ => "bool"
  | boost q _ => q.kind

/-- The field of a leaf. -/
def field? : Query → Option Field
  | term f _ | fullText f _ | phrase f _ _ | range f _ _ | wildcard f _ | fuzzy f _ _ | regex f _
  | .exists f => some f
  | all | nested _ _ | bool _ _ _ _ | boost _ _ => none

/-- A query as `factor` boosts it, without a boost where the factor is one. -/
def withFactor (q : Query) (factor : Single) : Query :=
  if factor.same .one then q else boost q factor

/-- Boosts a query. The boost of a boosted query multiplies its factor. -/
def boosted : Query → Single → Query
  | boost q inner, factor => q.withFactor (inner.mul factor)
  | q, factor => q.withFactor factor

mutual

/-- The leaves that have a field, from left to right. -/
def fieldLeaves : Query → List Query
  | nested _ q | boost q _ => q.fieldLeaves
  | bool must filter should mustNot =>
    fieldLeavesAll must ++ fieldLeavesAll filter ++ fieldLeavesAll should ++
      fieldLeavesAll mustNot
  | all => []
  | term f v => [term f v]
  | fullText f s => [fullText f s]
  | phrase f s n => [phrase f s n]
  | range f a b => [range f a b]
  | wildcard f p => [wildcard f p]
  | fuzzy f s d => [fuzzy f s d]
  | regex f p => [regex f p]
  | .exists f => [.exists f]

def fieldLeavesAll : List Query → List Query
  | [] => []
  | q :: rest => q.fieldLeaves ++ fieldLeavesAll rest

end

end Query

end Searchlight
