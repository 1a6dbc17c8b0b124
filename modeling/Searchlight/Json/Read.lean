import Searchlight.Json.Basic

/-!
# Reading JSON

A text is one value with white space around it. Nesting is bounded, and `value n` reads values with
at most `n` arrays and objects open inside each other. A whole number of sixty-four bits is kept as
it is; any other number becomes the double nearest to it.
-/

namespace Searchlight

namespace Json

/-- Arrays and objects that may be open inside each other. -/
def maxNesting : Nat := 127

abbrev Reader (α : Type) := List Char → Option (α × List Char)

def isSpace (c : Char) : Bool :=
  c = ' ' || c = '\n' || c = '\t' || c = '\r'

def skipSpace (cs : List Char) : List Char := cs.dropWhile isSpace

def hexDigit? (c : Char) : Option Nat :=
  if '0' ≤ c && c ≤ '9' then some (c.toNat - '0'.toNat)
  else if 'a' ≤ c && c ≤ 'f' then some (c.toNat - 'a'.toNat + 10)
  else if 'A' ≤ c && c ≤ 'F' then some (c.toNat - 'A'.toNat + 10)
  else none

def hexQuad : Reader Nat
  | a :: b :: c :: d :: rest => do
    let a ← hexDigit? a
    let b ← hexDigit? b
    let c ← hexDigit? c
    let d ← hexDigit? d
    some (((a * 16 + b) * 16 + c) * 16 + d, rest)
  | _ => none

/-- The character of an escape behind its `\u`. The halves of a surrogate pair stand together. -/
def unicodeEscape : Reader Char := fun cs => do
  let (high, rest) ← hexQuad cs
  if 0xdc00 ≤ high && high ≤ 0xdfff then none
  else if 0xd800 ≤ high && high ≤ 0xdbff then
    match rest with
    | '\\' :: 'u' :: rest => do
      let (low, rest) ← hexQuad rest
      if 0xdc00 ≤ low && low ≤ 0xdfff then
        some (Char.ofNat (0x10000 + (high - 0xd800) * 0x400 + (low - 0xdc00)), rest)
      else none
    | _ => none
  else some (Char.ofNat high, rest)

def plainEscape? (c : Char) : Option Char :=
  [('"', '"'), ('\\', '\\'), ('/', '/'), ('b', '\x08'), ('f', '\x0c'), ('n', '\n'), ('r', '\r'),
    ('t', '\t')].lookup c

/-- The characters of a string up to its closing quote. Each takes at least one character of the
input, so as much fuel as the input is long is enough. -/
def stringBody : Nat → Reader (List Char)
  | 0, _ => none
  | fuel + 1, cs =>
    match cs with
    | [] => none
    | '"' :: rest => some ([], rest)
    | '\\' :: 'u' :: rest => do
      let (c, rest) ← unicodeEscape rest
      let (body, rest) ← stringBody fuel rest
      some (c :: body, rest)
    | '\\' :: c :: rest => do
      let c ← plainEscape? c
      let (body, rest) ← stringBody fuel rest
      some (c :: body, rest)
    | c :: rest =>
      if c.toNat < 0x20 || c = '\\' then none
      else do
        let (body, rest) ← stringBody fuel rest
        some (c :: body, rest)

def stringLiteral : Reader String
  | '"' :: rest => (stringBody (rest.length + 1) rest).map fun (s, rest) => (String.ofList s, rest)
  | _ => none

/-! ## Numbers -/

/-- A fraction behind the whole digits: its digits, at least one, or nothing. -/
def fractionPart : Reader (Option (List Char))
  | '.' :: rest =>
    let (digits, rest) := takeDigits rest
    if digits.isEmpty then none else some (some digits, rest)
  | rest => some (none, rest)

/-- An exponent behind the digits, or nothing. -/
def exponentPart : Reader (Option Int)
  | c :: rest =>
    if c = 'e' || c = 'E' then
      let (negative, rest) := takeSign rest
      let (digits, rest) := takeDigits rest
      if digits.isEmpty then none
      else
        let n : Int := digitsValue digits
        some (some (if negative then -n else n), rest)
    else some (none, c :: rest)
  | [] => some (none, [])

/-- Whole digits: a lone zero, or digits that do not start with one. -/
def wholePart : Reader (List Char) := fun cs =>
  match takeDigits cs with
  | ([], _) => none
  | (['0'], rest) => some (['0'], rest)
  | ('0' :: _, _) => none
  | (digits, rest) => some (digits, rest)

/-- The double nearest to a decimal. A decimal beyond all doubles is no number. -/
def floatOf (d : Decimal) : Option Double :=
  let x : Double := d.toBinary
  if x.isFinite then some x else none

/-- A whole number of sixty-four bits, signed or not. Negative zero is none. -/
def wholeNumber? (negative : Bool) (n : Nat) : Option Int :=
  if negative then if 0 < n ∧ n ≤ 0x8000000000000000 then some (-n) else none
  else if n < 0x10000000000000000 then some n
  else none

def number (negative : Bool) : Reader Json := fun cs => do
  let (whole, rest) ← wholePart cs
  let (fraction, rest) ← fractionPart rest
  let (exponent, rest) ← exponentPart rest
  match wholeNumber? negative (digitsValue whole), fraction, exponent with
  | some n, none, none => some (.integer n, rest)
  | _, _, _ =>
    let places := fraction.getD []
    let d : Decimal := ⟨negative, digitsValue (whole ++ places), exponent.getD 0 - places.length⟩
    (floatOf d).map fun x => (.float x, rest)

/-! ## Values -/

/-- Items up to the closing bracket, each behind a comma. -/
def moreItems (item : Reader Json) : Nat → Reader (List Json)
  | 0, _ => none
  | fuel + 1, cs =>
    match skipSpace cs with
    | ']' :: rest => some ([], rest)
    | ',' :: rest => do
      let (v, rest) ← item rest
      let (vs, rest) ← moreItems item fuel rest
      some (v :: vs, rest)
    | _ => none

def items (item : Reader Json) : Reader (List Json) := fun cs =>
  match skipSpace cs with
  | ']' :: rest => some ([], rest)
  | _ => do
    let (v, rest) ← item cs
    let (vs, rest) ← moreItems item (rest.length + 1) rest
    some (v :: vs, rest)

def member (item : Reader Json) : Reader (String × Json) := fun cs => do
  let (name, rest) ← stringLiteral (skipSpace cs)
  match skipSpace rest with
  | ':' :: rest => do
    let (v, rest) ← item rest
    some ((name, v), rest)
  | _ => none

/-- Members up to the closing brace, each behind a comma. -/
def moreMembers (item : Reader Json) : Nat → Reader (List (String × Json))
  | 0, _ => none
  | fuel + 1, cs =>
    match skipSpace cs with
    | '\x7d' :: rest => some ([], rest)
    | ',' :: rest => do
      let (m, rest) ← member item rest
      let (ms, rest) ← moreMembers item fuel rest
      some (m :: ms, rest)
    | _ => none

def members (item : Reader Json) : Reader (List (String × Json)) := fun cs =>
  match skipSpace cs with
  | '\x7d' :: rest => some ([], rest)
  | _ => do
    let (m, rest) ← member item cs
    let (ms, rest) ← moreMembers item (rest.length + 1) rest
    some (m :: ms, rest)

def objectOf (ms : List (String × Json)) : Json :=
  .object (ms.foldl (fun done (n, v) => insert n v done) [])

/-- One value; `nested?` reads the values inside arrays and objects, unless none may be opened. -/
def valueWith (nested? : Option (Reader Json)) : Reader Json := fun cs =>
  match skipSpace cs with
  | 'n' :: 'u' :: 'l' :: 'l' :: rest => some (.null, rest)
  | 't' :: 'r' :: 'u' :: 'e' :: rest => some (.bool true, rest)
  | 'f' :: 'a' :: 'l' :: 's' :: 'e' :: rest => some (.bool false, rest)
  | '"' :: rest => (stringLiteral ('"' :: rest)).map fun (s, rest) => (.string s, rest)
  | '[' :: rest => do
    let (vs, rest) ← items (← nested?) rest
    some (.array vs, rest)
  | '\x7b' :: rest => do
    let (ms, rest) ← members (← nested?) rest
    some (objectOf ms, rest)
  | '-' :: rest => number true rest
  | rest => number false rest

/-- A value with at most the given number of arrays and objects open inside each other. -/
def value : Nat → Reader Json
  | 0 => valueWith none
  | n + 1 => valueWith (some (value n))

def read? (text : String) : Option Json := do
  let (v, rest) ← value maxNesting text.toList
  if (skipSpace rest).isEmpty then some v else none

end Json

end Searchlight
