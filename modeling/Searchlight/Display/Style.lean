import Searchlight.Text.Blank
import Searchlight.Text.Lines

/-!
# Styled text

Terminal escapes that set a tone and end it again. A dump of a query is styled line by line: clause
labels are dimmed and node names stand out, while everything else stays as it is.
-/

namespace Searchlight

namespace Display

/-- Starts every terminal escape. -/
def escape : Char := '\x1b'

/-- The escape that selects a mode. -/
def mode (code : String) : String := String.ofList [escape, '['] ++ code ++ "m"

/-- Ends all tones. -/
def reset : String := mode "0"

inductive Tone where
  | header
  | strong
  | dim
  | success
  | warning
  | error
  deriving DecidableEq

namespace Tone

def code : Tone → String
  | header => mode "1" ++ mode "36"
  | strong => mode "1"
  | dim => mode "2"
  | success => mode "32"
  | warning => mode "33"
  | error => mode "31"

def paint (t : Tone) (s : String) : String := t.code ++ s ++ reset

end Tone

/-- A text without its escapes, each of which ends at the next `m`. -/
def withoutEscapes (inside : Bool) : List Char → List Char
  | [] => []
  | c :: rest =>
    if inside then withoutEscapes (c != 'm') rest
    else if c = escape then withoutEscapes true rest
    else c :: withoutEscapes false rest

def plain (s : String) : String := String.ofList (withoutEscapes false s.toList)

/-- A dimmed horizontal line. -/
def rule (width : Nat) : String := Tone.dim.paint (String.ofList (List.replicate width '─'))

/-! ## Lines -/

def joinLines (ls : List (List Char)) : List Char := ['\n'].intercalate ls

def mapLines (f : List Char → List Char) (s : String) : String :=
  String.ofList (joinLines ((Text.lines s.toList).map f))

def indentLine (width : Nat) (line : List Char) : List Char :=
  if line.isEmpty then [] else List.replicate width ' ' ++ line

/-- Indents the lines of a text that are not empty. -/
def indent (s : String) (width : Nat) : String := mapLines (indentLine width) s

def paintLine (t : Tone) (line : List Char) : List Char :=
  t.code.toList ++ line ++ reset.toList

def clauseLabels : List (List Char) :=
  ["must:".toList, "filter:".toList, "should:".toList, "must_not:".toList]

/-- Styles a line of a dump: a clause label, or a node with its arguments in parentheses. -/
def styleLine (line : List Char) : List Char :=
  let (indentation, body) := line.span Text.isBlank
  if clauseLabels.contains body then indentation ++ paintLine .dim body
  else
    let (name, arguments) := body.span (· ≠ '(')
    indentation ++ paintLine .header name ++ arguments

def styleDump (s : String) : String := mapLines styleLine s

end Display

end Searchlight
