import Searchlight.Json.Read
import Searchlight.Toml.Basic
import Searchlight.Toml.Scalar

/-!
# Reading TOML

A document is a list of statements, one a line: headers that open tables, and assignments to keys of
the open table. Strings have four forms, keys three.
-/

namespace Searchlight

namespace Toml

abbrev Reader (α : Type) := List Char → Option (α × List Char)

def isSpace (c : Char) : Bool := c = ' ' || c = '\t'

def skipSpace (cs : List Char) : List Char := cs.dropWhile isSpace

/-- Control characters other than the tab stand nowhere in a document. -/
def isForbidden (c : Char) : Bool :=
  (c.toNat < 0x20 && c ≠ '\t') || c.toNat = 0x7f

/-- A line end. -/
def newline? : List Char → Option (List Char)
  | '\n' :: rest => some rest
  | '\r' :: '\n' :: rest => some rest
  | _ => none

/-- What follows a comment, if one starts here; its text holds no control characters. -/
def skipComment : List Char → Option (List Char)
  | '#' :: rest =>
    let after := rest.dropWhile fun c => !isForbidden c
    if after.isEmpty || (newline? after).isSome then some after else none
  | rest => some rest

/-- White space and comments to the end of the line, and the line end. -/
def endLine (cs : List Char) : Option (List Char) :=
  match skipComment (skipSpace cs) with
  | some [] => some []
  | some rest => newline? rest
  | none => none

/-- White space, comments and line ends, as they may stand between the items of an array. -/
def skipLines : Nat → List Char → Option (List Char)
  | 0, _ => none
  | fuel + 1, cs => do
    let rest ← skipComment (skipSpace cs)
    match newline? rest with
    | some rest => skipLines fuel rest
    | none => some rest

def skipAll (cs : List Char) : Option (List Char) := skipLines (cs.length + 1) cs

/-! ## Strings -/

/-- The value of exactly `n` hexadecimal digits. -/
def hexDigits : Nat → Nat → Reader Nat
  | 0, value, cs => some (value, cs)
  | n + 1, value, c :: rest => do
    let d ← Json.hexDigit? c
    hexDigits n (16 * value + d) rest
  | _ + 1, _, [] => none

/-- The character of a code point, unless it is half of a surrogate pair or out of range. -/
def scalar? (n : Nat) : Option Char :=
  if h : n.isValidChar then some (Char.ofNatAux n h) else none

/-- The character of an escape behind its backslash. -/
def escape : Reader Char
  | 'x' :: rest => hexEscape 2 rest
  | 'u' :: rest => hexEscape 4 rest
  | 'U' :: rest => hexEscape 8 rest
  | c :: rest =>
    ([('b', '\x08'), ('t', '\t'), ('n', '\n'), ('f', '\x0c'), ('r', '\r'), ('e', '\x1b'),
      ('"', '"'), ('\\', '\\')].lookup c).map (·, rest)
  | [] => none
where
  hexEscape (n : Nat) : Reader Char := fun cs => do
    let (v, rest) ← hexDigits n 0 cs
    (scalar? v).map (·, rest)

/-- The characters of a basic string up to its closing quote. -/
def basicBody : Nat → Reader (List Char)
  | 0, _ => none
  | fuel + 1, cs =>
    match cs with
    | '"' :: rest => some ([], rest)
    | '\\' :: rest => do
      let (c, rest) ← escape rest
      let (body, rest) ← basicBody fuel rest
      some (c :: body, rest)
    | c :: rest =>
      if isForbidden c then none
      else do
        let (body, rest) ← basicBody fuel rest
        some (c :: body, rest)
    | [] => none

def literalBody : Reader (List Char)
  | '\'' :: rest => some ([], rest)
  | c :: rest =>
    if isForbidden c then none
    else do
      let (body, rest) ← literalBody rest
      some (c :: body, rest)
  | [] => none

/-- How many times a character stands at the front, at most five times. -/
def frontCount (c : Char) (cs : List Char) : Nat :=
  ((cs.take 5).takeWhile (· = c)).length

/-- The end of a string in triple quotes: three quotes, with up to two more before them that belong
to the string. -/
def tripleEnd (quote : Char) : Reader (List Char) := fun cs =>
  let n := frontCount quote cs
  if 3 ≤ n then some (List.replicate (n - 3) quote, cs.drop n) else none

/-- What follows a backslash at the end of a line: the white space and line ends behind it. -/
def lineContinuation (cs : List Char) : Option (List Char) :=
  match newline? (skipSpace cs) with
  | some rest => some (skipBlank rest.length rest)
  | none => none
where
  skipBlank : Nat → List Char → List Char
    | 0, cs => cs
    | fuel + 1, cs =>
      match newline? (skipSpace cs) with
      | some rest => skipBlank fuel rest
      | none => skipSpace cs

/-- The characters of a basic string in triple quotes. Line ends inside it are kept as they are. -/
def tripleBasicBody : Nat → Reader (List Char)
  | 0, _ => none
  | fuel + 1, cs =>
    match tripleEnd '"' cs with
    | some done => some done
    | none =>
      match cs with
      | '\\' :: rest =>
        match lineContinuation rest with
        | some rest => tripleBasicBody fuel rest
        | none => do
          let (c, rest) ← escape rest
          let (body, rest) ← tripleBasicBody fuel rest
          some (c :: body, rest)
      | c :: rest =>
        if isForbidden c && !(newline? cs).isSome then none
        else do
          let (body, rest) ← tripleBasicBody fuel rest
          some (c :: body, rest)
      | [] => none

/-- The characters of a literal string in triple quotes, line ends included. -/
def tripleLiteralBody : Nat → Reader (List Char)
  | 0, _ => none
  | fuel + 1, cs =>
    match tripleEnd '\'' cs with
    | some done => some done
    | none =>
      match cs with
      | c :: rest =>
        if isForbidden c && !(newline? cs).isSome then none
        else do
          let (body, rest) ← tripleLiteralBody fuel rest
          some (c :: body, rest)
      | [] => none

/-- A line end directly behind opening triple quotes does not belong to the string. -/
def afterTriple (cs : List Char) : List Char := (newline? cs).getD cs

/-- A string at its opening quotes. -/
def stringValue (cs : List Char) : Option (List Char × List Char) :=
  match cs with
  | '"' :: '"' :: '"' :: rest => tripleBasicBody (rest.length + 1) (afterTriple rest)
  | '\'' :: '\'' :: '\'' :: rest => tripleLiteralBody (rest.length + 1) (afterTriple rest)
  | '"' :: rest => basicBody (rest.length + 1) rest
  | '\'' :: rest => literalBody rest
  | _ => none

/-! ## Keys -/

def isBareKeyChar (c : Char) : Bool :=
  ('a' ≤ c && c ≤ 'z') || ('A' ≤ c && c ≤ 'Z') || isAsciiDigit c || c = '-' || c = '_'

def simpleKey : Reader String := fun cs =>
  match cs with
  | '"' :: rest => (basicBody (rest.length + 1) rest).map fun (k, rest) => (String.ofList k, rest)
  | '\'' :: rest => (literalBody rest).map fun (k, rest) => (String.ofList k, rest)
  | cs =>
    let (bare, rest) := cs.span isBareKeyChar
    if bare.isEmpty then none else some (String.ofList bare, rest)

/-- A key with its parts between dots, and white space around all of them. -/
def key : Nat → Reader (List String)
  | 0, _ => none
  | fuel + 1, cs => do
    let (k, rest) ← simpleKey (skipSpace cs)
    match skipSpace rest with
    | '.' :: rest => do
      let (ks, rest) ← key fuel rest
      some (k :: ks, rest)
    | rest => some ([k], rest)

/-! ## Values -/

/-- Arrays and inline tables that may be open inside each other. -/
def maxNesting : Nat := 80

/-- Items up to the closing bracket, with commas between them and possibly one at the end. -/
def arrayItems (item : Reader Toml) : Nat → Reader (List Toml)
  | 0, _ => none
  | fuel + 1, cs => do
    let cs ← skipAll cs
    match cs with
    | ']' :: rest => some ([], rest)
    | cs => do
      let (v, rest) ← item cs
      let rest ← skipAll rest
      match rest with
      | ',' :: rest => do
        let (vs, rest) ← arrayItems item fuel rest
        some (v :: vs, rest)
      | ']' :: rest => some ([v], rest)
      | _ => none

/-- Assignments up to the closing brace, with commas between them and possibly one at the end. -/
def inlineEntries (item : Reader Toml) : Nat → List (String × Toml) → Reader (List (String × Toml))
  | 0, _, _ => none
  | fuel + 1, entries, cs => do
    let cs ← skipAll cs
    match cs with
    | '\x7d' :: rest => some (entries, rest)
    | cs => do
      let (k, rest) ← key (cs.length + 1) cs
      match rest with
      | '=' :: rest => do
        let (v, rest) ← item (skipSpace rest)
        let entries ← assign .inline entries (1 < k.length) k v
        let rest ← skipAll rest
        match rest with
        | ',' :: rest => inlineEntries item fuel entries rest
        | '\x7d' :: rest => some (entries, rest)
        | _ => none
      | _ => none

/-- One value; `nested?` reads the values inside arrays and inline tables, unless none may be
opened. -/
def valueWith (nested? : Option (Reader Toml)) : Reader Toml := fun cs =>
  match cs with
  | '[' :: rest => do
    let (vs, rest) ← arrayItems (← nested?) (rest.length + 1) rest
    some (.array vs, rest)
  | '\x7b' :: rest => do
    let (es, rest) ← inlineEntries (← nested?) (rest.length + 1) [] rest
    some (.table .inline es, rest)
  | 't' :: 'r' :: 'u' :: 'e' :: rest => some (.boolean true, rest)
  | 'f' :: 'a' :: 'l' :: 's' :: 'e' :: rest => some (.boolean false, rest)
  | '"' :: _ | '\'' :: _ => (stringValue cs).map fun (s, rest) => (.string (String.ofList s), rest)
  | cs => (skipScalar cs).map (.scalar, ·)

/-- A value with at most the given number of arrays and inline tables open inside each other. -/
def value : Nat → Reader Toml
  | 0 => valueWith none
  | n + 1 => valueWith (some (value n))

/-! ## Documents -/

/-- One statement, up to its value or its closing brackets. -/
def statement (cs : List Char) : Option (Statement × List Char) :=
  match cs with
  | '[' :: '[' :: rest => do
    let (path, rest) ← key (rest.length + 1) rest
    match rest with
    | ']' :: ']' :: rest => some (.tablesHeader path, rest)
    | _ => none
  | '[' :: rest => do
    let (path, rest) ← key (rest.length + 1) rest
    match rest with
    | ']' :: rest => some (.header path, rest)
    | _ => none
  | cs => do
    let (k, rest) ← key (cs.length + 1) cs
    match rest with
    | '=' :: rest => do
      let (v, rest) ← value maxNesting (skipSpace rest)
      some (.assignment k v, rest)
    | _ => none

/-- Carries out all statements. Each takes at least one character, so as much fuel as the text is
long is enough. -/
def statements : Nat → Document → List Char → Option Document
  | 0, _, _ => none
  | fuel + 1, d, cs => do
    let rest ← skipAll cs
    match rest with
    | [] => some d
    | rest => do
      let (s, rest) ← statement rest
      let rest ← endLine rest
      statements fuel (← d.step s) rest

/-- The entries of a document. A byte order mark at its start does not count. -/
def read? (text : String) : Option (List (String × Toml)) :=
  let cs :=
    match text.toList with
    | '\ufeff' :: rest => rest
    | cs => cs
  (statements (cs.length + 1) {} cs).map (·.root)

end Toml

end Searchlight
