import Searchlight.Toml.Read
import Searchlight.Text.Search

/-!
# Writing TOML

A string takes the first form that can hold it: between quotes or apostrophes without any escape, or
between three of them, and only then with escapes. A key is written bare where possible.
-/

namespace Searchlight

namespace Toml

/-- Control characters that no form holds without an escape. -/
def needsCode (c : Char) : Bool := isForbidden c && c ≠ '\n'

/-- Length of the longest run of a character. -/
def longestRun (c : Char) (cs : List Char) : Nat :=
  go 0 cs
where
  go (current : Nat) : List Char → Nat
    | [] => current
    | d :: rest => if d = c then go (current + 1) rest else max current (go 0 rest)

def codeEscape (c : Char) : List Char :=
  let digits := (Nat.toDigits 16 c.toNat).map Char.toUpper
  ['\\', 'u'] ++ List.replicate (4 - digits.length) '0' ++ digits

/-- A character of a basic string in which no quote may stand. -/
def escapeChar (c : Char) : List Char :=
  match c with
  | '"' => ['\\', '"']
  | '\\' => ['\\', '\\']
  | '\x08' => ['\\', 'b']
  | '\t' => ['\\', 't']
  | '\n' => ['\\', 'n']
  | '\x0c' => ['\\', 'f']
  | '\r' => ['\\', 'r']
  | c => if needsCode c then codeEscape c else [c]

/-- The characters of a basic string in triple quotes, where `quotes` of them stand directly before.
The third of three quotes is escaped; line ends stand for themselves. -/
def escapeTriple (quotes : Nat) : List Char → List Char
  | [] => []
  | '"' :: rest =>
    if quotes = 2 then '\\' :: '"' :: escapeTriple 0 rest else '"' :: escapeTriple (quotes + 1) rest
  | '\n' :: rest => '\n' :: escapeTriple 0 rest
  | c :: rest => escapeChar c ++ escapeTriple 0 rest

def inQuotes (cs : List Char) : List Char :=
  '"' :: cs.flatMap escapeChar ++ ['"']

def inApostrophes (cs : List Char) : List Char :=
  '\'' :: cs ++ ['\'']

/-- A line end is put before a text with line ends. -/
def leadingNewline (cs : List Char) : List Char :=
  if cs.contains '\n' then ['\n'] else []

def inTripleQuotes (cs : List Char) : List Char :=
  ['"', '"', '"'] ++ leadingNewline cs ++ escapeTriple 0 cs ++ ['"', '"', '"']

def inTripleApostrophes (cs : List Char) : List Char :=
  ['\'', '\'', '\''] ++ leadingNewline cs ++ cs ++ ['\'', '\'', '\'']

def writeString (cs : List Char) : List Char :=
  let code := cs.any needsCode
  let backslash := cs.contains '\\'
  let newline := cs.contains '\n'
  if !code && !backslash && !newline && !cs.contains '"' then inQuotes cs
  else if !code && !newline && !cs.contains '\'' then inApostrophes cs
  else if !code && !backslash && longestRun '"' cs ≤ 2 then inTripleQuotes cs
  else if !code && longestRun '\'' cs ≤ 2 then inTripleApostrophes cs
  else if newline then inTripleQuotes cs
  else inQuotes cs

def writeKey (cs : List Char) : List Char :=
  let code := cs.any isForbidden
  if !cs.isEmpty && cs.all isBareKeyChar then cs
  else if !code && !cs.contains '\\' && !cs.contains '"' then inQuotes cs
  else if !code && !cs.contains '\'' then inApostrophes cs
  else inQuotes cs

/-- A list of one string stays on its line; of a longer list every string has a line of its own. -/
def writeStrings : List (List Char) → List Char
  | [] => ['[', ']']
  | [only] => '[' :: writeString only ++ [']']
  | all =>
    ['[', '\n'] ++ all.flatMap (fun s => "    ".toList ++ writeString s ++ [',', '\n']) ++ [']']

/-- The text of an assignment whose key is a plain word. -/
def line (key : String) (value : List Char) : List Char :=
  key.toList ++ " = ".toList ++ value ++ ['\n']

end Toml

end Searchlight
