import Searchlight.Analysis.Analyzer
import Searchlight.Field.Basic

/-!
# Postings

A posting is one occurrence of a term in a field: its position among the terms and the bytes of the
value it stands for. Analysis turns the value of a field into its postings.
-/

namespace Searchlight

namespace Analysis

structure Posting where
  field : String
  term : String
  position : Nat
  /-- Offset of the first byte. -/
  start : Nat
  /-- Offset after the last byte. -/
  stop : Nat
  deriving DecidableEq

/-- A field with the postings of one of its values. -/
structure AnalyzedField where
  name : String
  postings : List Posting
  deriving DecidableEq

/-- Positions are 32-bit numbers; the last one is used up by all terms that come later. -/
def lastPosition : Nat := 0xffffffff

def postingOf (a : Analyzer) (field : String) (s : Span) (number : Nat) : Posting where
  field := field
  term := String.ofList (a.normalize s.text)
  position := min number lastPosition
  start := s.start
  stop := s.stop

def Analyzer.analyze (a : Analyzer) (field text : String) : AnalyzedField where
  name := field
  postings := (a.spans text.toList).zipIdx.map fun (s, number) => postingOf a field s number

inductive Error where
  | unknownAnalyzer (name : String)
  /-- A regular expression as it is written, or a wildcard pattern as it has been normalized. -/
  | invalidPattern (pattern : String)
  deriving DecidableEq

namespace Error

/-- What is wrong with a pattern in particular is left out: a fixed text stands in its place. -/
def message : Error → String
  | unknownAnalyzer name =>
    "unknown analyzer '" ++ name ++
      "' (expected one of: standard, simple, whitespace, keyword)"
  | invalidPattern pattern => "invalid pattern '" ++ pattern ++ "': not a regular expression"

end Error

/-- The analyzer in effect for a field. -/
def analyzerOf (f : Field) : Except Error Analyzer :=
  match Analyzer.ofName? f.analyzerName with
  | some a => .ok a
  | none => .error (.unknownAnalyzer f.analyzerName)

/-- Analyzes a value of a field, which is known by its path from here on. -/
def analyzeField (f : Field) (value : String) : Except Error AnalyzedField :=
  (analyzerOf f).map fun a => a.analyze f.path value

/-! ## Canonical order -/

/-- By field, then by position. -/
def Posting.before (a b : Posting) : Bool :=
  a.field < b.field || (a.field == b.field && a.position ≤ b.position)

/-- Postings in canonical order. Those at the same position of the same field keep their order. -/
def inOrder (ps : List Posting) : List Posting := ps.mergeSort Posting.before

end Analysis

end Searchlight
