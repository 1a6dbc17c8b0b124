import Searchlight.Token.Basic
import Searchlight.Text.Blank
import Searchlight.Text.Bytes

/-!
# Scanning query strings

A scan skips white space, reads one token from the front of what is left, and goes on behind it.
What a character means depends on two things that earlier tokens decide: whether a range bracket is
open, and whether the last token was a field name or a comparator.
-/

namespace Searchlight

open Text

namespace Scan

inductive Fault where
  | unclosedQuote
  | invalidEscape (c : Char)
  | unterminatedRegex
  | incompleteEscape
  | missingBoost
  | invalidBoost (number : String)
  | invalidDistance (number : String)
  deriving DecidableEq

namespace Fault

def message : Fault → String
  | unclosedQuote => "unclosed quote"
  | invalidEscape c => "invalid escape sequence '\\" ++ c.toString ++ "' in phrase"
  | unterminatedRegex => "unterminated regex"
  | incompleteEscape => "incomplete escape sequence"
  | missingBoost => "expected number after '^'"
  | invalidBoost number => "invalid boost value: " ++ number
  | invalidDistance number => "invalid distance after '~': " ++ number

end Fault

/-- A fault and the input from the faulty place on. -/
structure Stop where
  fault : Fault
  rest : List Char

/-- A result and the input behind it. -/
abbrev Step (α : Type) := Except Stop (α × List Char)

/-- The characters of a phrase up to its closing quote. An input that ends before it is a fault at
`start`, where the phrase begins. -/
def phraseBody (start : List Char) : List Char → Step (List Char)
  | [] => .error ⟨.unclosedQuote, start⟩
  | ['\\'] => .error ⟨.unclosedQuote, start⟩
  | '"' :: rest => .ok ([], rest)
  | '\\' :: c :: rest =>
    if c = '"' ∨ c = '\\' then (phraseBody start rest).map fun (body, after) => (c :: body, after)
    else .error ⟨.invalidEscape c, '\\' :: c :: rest⟩
  | c :: rest => (phraseBody start rest).map fun (body, after) => (c :: body, after)

/-- The pattern of a regular expression up to its closing slash. An escaped slash stands for a
slash; every other escape belongs to the pattern. -/
def regexBody (start : List Char) : List Char → Step (List Char)
  | [] => .error ⟨.unterminatedRegex, start⟩
  | ['\\'] => .error ⟨.unterminatedRegex, start⟩
  | '/' :: rest => .ok ([], rest)
  | '\\' :: c :: rest =>
    (regexBody start rest).map fun (body, after) =>
      (if c = '/' then c :: body else '\\' :: c :: body, after)
  | c :: rest => (regexBody start rest).map fun (body, after) => (c :: body, after)

/-- Characters other than white space that end a bare word. -/
def breaksWord (c : Char) : Bool :=
  ['(', ')', '"', '^', '~', '[', ']', '\x7b', '\x7d'].contains c

/-- A bare word: the text with escapes resolved, the pattern that keeps them, and what was met. -/
structure Word where
  text : List Char := []
  pattern : List Char := []
  escaped : Bool := false
  wildcard : Bool := false
  /-- The word ended at a colon. -/
  isField : Bool := false

namespace Word

def addChar (c : Char) (w : Word) : Word :=
  { w with
    text := c :: w.text
    pattern := c :: w.pattern
    wildcard := w.wildcard || c = '*' || c = '?' }

def addEscape (c : Char) (w : Word) : Word :=
  { w with text := c :: w.text, pattern := '\\' :: c :: w.pattern, escaped := true }

/-- The token of a finished word. Inside a range bracket no word is an operator. -/
def kind (inRange : Bool) (w : Word) : TokenKind :=
  if w.isField then .field (String.ofList w.text)
  else if w.wildcard then .wildcard (String.ofList w.pattern)
  else if w.escaped || inRange then .term (String.ofList w.text)
  else if sameIgnoringAsciiCase w.text ['o', 'r'] then .or
  else if sameIgnoringAsciiCase w.text ['a', 'n', 'd'] then .and
  else if sameIgnoringAsciiCase w.text ['n', 'o', 't'] then .not
  else .term (String.ofList w.text)

end Word

/-- Reads a bare word; `started` tells whether characters of it precede. A colon ends a started word
as a field name, except inside a range bracket. -/
def word (inRange started : Bool) : List Char → Step Word
  | [] => .ok ({}, [])
  | ['\\'] => .error ⟨.incompleteEscape, ['\\']⟩
  | '\\' :: c :: rest => (word inRange true rest).map fun (w, after) => (w.addEscape c, after)
  | c :: rest =>
    if isBlank c || breaksWord c then .ok ({}, c :: rest)
    else if c = ':' && started && !inRange then .ok ({ isField := true }, rest)
    else (word inRange true rest).map fun (w, after) => (w.addChar c, after)

/-- A run of digits with at most one point in it. -/
def pointedDigits (cs : List Char) : List Char × List Char :=
  match takeDigits cs with
  | (whole, '.' :: rest) =>
    let (fraction, after) := takeDigits rest
    (whole ++ '.' :: fraction, after)
  | (whole, rest) => (whole, rest)

def boost (start cs : List Char) : Step TokenKind :=
  let (number, rest) := pointedDigits cs
  if number.isEmpty then .error ⟨.missingBoost, start⟩
  else
    match Binary.read? number with
    | some factor => .ok (.boost factor, rest)
    | none => .error ⟨.invalidBoost (String.ofList number), start⟩

/-- Distances are stored in thirty-two bits. -/
def tilde (start cs : List Char) : Step TokenKind :=
  let (number, rest) := takeDigits cs
  if number.isEmpty then .ok (.tilde none, rest)
  else if digitsValue number < 0x100000000 then .ok (.tilde (some (digitsValue number)), rest)
  else .error ⟨.invalidDistance (String.ofList number), start⟩

/-- The comparator whose first sign is read already. -/
def comparator (strict orEqual : Comparator) : List Char → TokenKind × List Char
  | '=' :: rest => (.comparator orEqual, rest)
  | rest => (.comparator strict, rest)

/-- What earlier tokens tell about the next one. -/
structure Context where
  /-- A range bracket is open. -/
  inRange : Bool := false
  previous : Option TokenKind := none

namespace Context

def afterField (ctx : Context) : Bool :=
  match ctx.previous with
  | some (.field _) => true
  | _ => false

def afterComparator (ctx : Context) : Bool :=
  match ctx.previous with
  | some (.comparator _) => true
  | _ => false

def next (ctx : Context) (kind : TokenKind) : Context :=
  { inRange :=
      match kind with
      | .openRange _ => true
      | .closeRange _ => false
      | _ => ctx.inRange
    previous := some kind }

end Context

def wordToken (ctx : Context) (cs : List Char) : Step TokenKind :=
  (word ctx.inRange false cs).map fun (w, rest) => (w.kind ctx.inRange, rest)

/-- Reads one token from the front of an input that does not start with white space. -/
def token (ctx : Context) (cs : List Char) : Step TokenKind :=
  match cs with
  | '"' :: rest => (phraseBody cs rest).map fun (s, after) => (.phrase (String.ofList s), after)
  | '/' :: rest => (regexBody cs rest).map fun (s, after) => (.regex (String.ofList s), after)
  | '(' :: rest => .ok (.openGroup, rest)
  | ')' :: rest => .ok (.closeGroup, rest)
  | '[' :: rest => .ok (.openRange true, rest)
  | '\x7b' :: rest => .ok (.openRange false, rest)
  | ']' :: rest => .ok (.closeRange true, rest)
  | '\x7d' :: rest => .ok (.closeRange false, rest)
  | '^' :: rest => boost cs rest
  | '~' :: rest => tilde cs rest
  | '-' :: rest => if ctx.inRange || ctx.afterComparator then wordToken ctx cs else .ok (.not, rest)
  | '>' :: rest =>
    if ctx.afterField then .ok (comparator .greater .atLeast rest) else wordToken ctx cs
  | '<' :: rest => if ctx.afterField then .ok (comparator .less .atMost rest) else wordToken ctx cs
  | _ => wordToken ctx cs

/-- Reads all tokens; `offset` bytes precede the input. Every token takes at least one character, so
as much fuel as the input is long is enough. -/
def tokens : Nat → Context → Nat → List Char → Except Stop (List Token)
  | 0, _, _, _ => .ok []
  | fuel + 1, ctx, offset, cs =>
    let start := cs.dropWhile isBlank
    match start with
    | [] => .ok []
    | _ :: _ => do
      let (kind, rest) ← token ctx start
      let text := start.take (start.length - rest.length)
      let offset := offset + byteLength (cs.takeWhile isBlank)
      let later ← tokens fuel (ctx.next kind) (offset + byteLength text) rest
      .ok (⟨kind, String.ofList text, offset⟩ :: later)

end Scan

/-- A fault of the scan and its place in the query string. -/
structure ScanError where
  fault : Scan.Fault
  offset : Nat
  deriving DecidableEq

/-- The tokens of a query string. -/
def tokenize (query : String) : Except ScanError (List Token) :=
  let cs := query.toList
  match Scan.tokens (cs.length + 1) {} 0 cs with
  | .ok tokens => .ok tokens
  | .error stop => .error ⟨stop.fault, byteLength cs - byteLength stop.rest⟩

end Searchlight
