import Searchlight.Text.Blank
import Searchlight.Text.Bytes
import Searchlight.Text.Letter

/-!
# Analyzers

An analyzer cuts a text into spans, the maximal runs of the characters it keeps, and folds the case
of each span or leaves it. The keyword analyzer takes a text as a whole.
-/

namespace Searchlight

namespace Analysis

inductive Analyzer where
  | standard
  | simple
  | whitespace
  | keyword
  deriving DecidableEq

/-- A part of a text, and the offset in bytes where it starts. -/
structure Span where
  start : Nat
  text : List Char
  deriving DecidableEq

def Span.stop (s : Span) : Nat := s.start + Text.byteLength s.text

/-- The maximal runs of kept characters in a text that starts at an offset. -/
def spansFrom (keep : Char → Bool) (offset : Nat) : List Char → List Span
  | [] => []
  | c :: rest =>
    let later := spansFrom keep (offset + c.utf8Size) rest
    if keep c then
      match later with
      | [] => [⟨offset, [c]⟩]
      | next :: others =>
        if next.start = offset + c.utf8Size then ⟨offset, c :: next.text⟩ :: others
        else ⟨offset, [c]⟩ :: later
    else later

namespace Analyzer

def ofName? : String → Option Analyzer
  | "standard" => some standard
  | "simple" => some simple
  | "whitespace" => some whitespace
  | "keyword" => some keyword
  | _ => none

/-- The characters that an analyzer keeps, unless it takes the text as a whole. -/
def keeps? : Analyzer → Option (Char → Bool)
  | standard => some Text.isAlphanumeric
  | simple => some Text.isAlphabetic
  | whitespace => some fun c => !Text.isBlank c
  | keyword => none

def spans (a : Analyzer) (cs : List Char) : List Span :=
  match a.keeps? with
  | some keep => spansFrom keep 0 cs
  | none => if cs.isEmpty then [] else [⟨0, cs⟩]

/-- Folds the case of a term where the analyzer ignores case. -/
def normalize (a : Analyzer) (cs : List Char) : List Char :=
  match a with
  | standard | simple => Text.lowercase cs
  | whitespace | keyword => cs

/-- The terms of a text. -/
def terms (a : Analyzer) (text : String) : List String :=
  (a.spans text.toList).map fun s => String.ofList (a.normalize s.text)

end Analyzer

end Analysis

end Searchlight
