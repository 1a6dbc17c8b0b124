import Searchlight.Number.Decimal
import Searchlight.Regex.Basic
import Searchlight.Regex.Property

/-!
# Sets of characters in expressions

Reads escapes and bracketed sets. A bracketed set is the union of its items: characters, ranges,
classes and further bracketed sets. Between unions may stand the operators for intersection,
difference and symmetric difference, which are of equal rank and group to the left. Case is
ignored, where it is, before a set is negated.
-/

namespace Searchlight

namespace Regex

/-- What the flags of an expression say at some place in it. -/
structure Flags where
  ignoreCase : Bool := false
  /-- Lines, not texts, are what the anchors `^` and `$` delimit. -/
  multiLine : Bool := false
  /-- The dot stands for line feeds too. -/
  dotAll : Bool := false
  /-- Carriage returns end lines. -/
  crlf : Bool := false
  /-- Classes go beyond ASCII. -/
  unicode : Bool := true
  /-- White space and comments in the expression say nothing. -/
  verbose : Bool := false
  /-- Repetitions without a mark prefer short matches, and those with one long matches. -/
  short : Bool := false

/-- Drops white space, and comments from a number sign to the end of the line. -/
def dropIdle (comment : Bool) : List Char → List Char
  | [] => []
  | c :: rest =>
    if comment then dropIdle (c ≠ '\n') rest
    else if Text.isBlank c then dropIdle false rest
    else if c = '#' then dropIdle true rest
    else c :: rest

namespace Flags

def skip (f : Flags) (cs : List Char) : List Char :=
  if f.verbose then dropIdle false cs else cs

/-- Widens a set where case is ignored. -/
def fold (f : Flags) (s : CharSet) : CharSet :=
  if !f.ignoreCase then s
  else if f.unicode then s.ignoringCase
  else s.ignoringAsciiCase

/-- The complement of a set, where that is asked for. Without classes beyond ASCII there is none. -/
def negate (f : Flags) (negated : Bool) (s : CharSet) : Option CharSet :=
  if !negated then some s else if f.unicode then some s.negated else none

/-- The characters of a class that is asked for. -/
def restrict (f : Flags) (s : CharSet) : CharSet :=
  if f.unicode then s else s.intersection .ascii

def digit (f : Flags) : CharSet := f.restrict CharSet.digit

def blank (f : Flags) : CharSet := f.restrict CharSet.blank

def word (f : Flags) : CharSet := f.restrict CharSet.word

/-- Every character, or every one that ends no line. -/
def dot (f : Flags) : CharSet :=
  if f.dotAll then .any
  else if f.crlf then (CharSet.union (.single '\n') (.single '\r')).negated
  else (CharSet.single '\n').negated

end Flags

/-- A part of an expression that stands for one character or for none. -/
inductive Primitive where
  | char (c : Char)
  | set (s : CharSet)
  | anchor (a : Anchor)

/-! ## Escapes -/

def isHexDigit (c : Char) : Bool :=
  isAsciiDigit c || ('a' ≤ c && c ≤ 'f') || ('A' ≤ c && c ≤ 'F')

def hexValue (cs : List Char) : Nat :=
  cs.foldl (fun n c => 16 * n + Text.hexDigitValue (asciiLower c)) 0

/-- The character of a code point, unless it is a surrogate or too large. -/
def scalar? (n : Nat) : Option Char :=
  if h : n.isValidChar then some (Char.ofNatAux n h) else none

/-- Reads so many hexadecimal digits. -/
def readHexDigits (f : Flags) : Nat → List Char → Option (List Char × List Char)
  | 0, cs => some ([], cs)
  | n + 1, cs =>
    match f.skip cs with
    | c :: rest =>
      if isHexDigit c then (readHexDigits f n rest).map fun (digits, after) => (c :: digits, after)
      else none
    | [] => none

/-- Reads up to a closing brace. -/
def readBraced (f : Flags) (comment : Bool) : List Char → Option (List Char × List Char)
  | [] => none
  | c :: rest =>
    if comment then readBraced f (c ≠ '\n') rest
    else if c = '\x7d' then some ([], rest)
    else if f.verbose && Text.isBlank c then readBraced f false rest
    else if f.verbose && c = '#' then readBraced f true rest
    else (readBraced f false rest).map fun (name, after) => (c :: name, after)

/-- A code point in hexadecimal, of a fixed number of digits or in braces. Two digits beyond ASCII
name a byte, not a character, where classes do not go beyond ASCII. -/
def readCodePoint (f : Flags) (digits : Nat) (cs : List Char) : Option (Char × List Char) :=
  match f.skip cs with
  | '\x7b' :: rest => do
    let (name, after) ← readBraced f false rest
    if name.isEmpty || !name.all isHexDigit then none
    else (scalar? (hexValue name)).map (·, after)
  | cs => do
    let (name, after) ← readHexDigits f digits cs
    let c ← scalar? (hexValue name)
    if digits = 2 && !f.unicode && !CharSet.ascii.contains c then none else some (c, after)

/-- Cuts a text where a shorter one begins first. -/
def cutAt (mark : List Char) : List Char → Option (List Char × List Char)
  | [] => none
  | c :: rest =>
    if mark.isPrefixOf (c :: rest) then some ([], (c :: rest).drop mark.length)
    else (cutAt mark rest).map fun (before, after) => (c :: before, after)

/-- The set of a name, or of a property and a value, and whether its complement is meant. -/
def propertySet (name : List Char) : Option (CharSet × Bool) :=
  match cutAt ['!', '='] name, cutAt [':'] name, cutAt ['='] name with
  | some (property, value), _, _ => (CharSet.valued? property value).map (·, true)
  | none, some (property, value), _ => (CharSet.valued? property value).map (·, false)
  | none, none, some (property, value) => (CharSet.valued? property value).map (·, false)
  | none, none, none => (CharSet.named? name).map (·, false)

def readProperty (f : Flags) (negated : Bool) (cs : List Char) :
    Option (CharSet × List Char) := do
  let (name, after) ←
    match f.skip cs with
    | '\x7b' :: rest => readBraced f false rest
    | '\\' :: _ | [] => none
    | c :: rest => some ([c], rest)
  let (s, complement) ← propertySet name
  if !f.unicode then none
  else
    let s ← f.negate (negated != complement) (f.fold s)
    some (s, after)

/-- Kinds of word boundary that are named in braces. -/
def namedBoundary? (word : CharSet) (name : List Char) : Option Anchor :=
  match String.ofList name with
  | "start" => some (.wordStart word)
  | "end" => some (.wordEnd word)
  | "start-half" => some (.noWordBefore word)
  | "end-half" => some (.noWordAfter word)
  | _ => none

def isBoundaryLetter (c : Char) : Bool :=
  ('a' ≤ c && c ≤ 'z') || ('A' ≤ c && c ≤ 'Z') || c = '-'

/-- A word boundary. Braces that do not begin with a letter are left to say how often it repeats. -/
def readBoundary (f : Flags) (cs : List Char) : Option (Anchor × List Char) :=
  match cs with
  | '\x7b' :: rest =>
    match f.skip rest with
    | [] => none
    | c :: _ =>
      if isBoundaryLetter c then do
        let (name, after) ← readBraced f false rest
        (namedBoundary? f.word name).map (·, after)
      else some (.wordBoundary f.word, cs)
  | _ => some (.wordBoundary f.word, cs)

/-- Characters with a meaning of their own, and all other ASCII characters but letters, digits and
angle brackets, stand for themselves after a backslash. -/
def isEscapable (c : Char) : Bool :=
  CharSet.ascii.contains c && !isAsciiDigit c && !('a' ≤ c && c ≤ 'z') && !('A' ≤ c && c ≤ 'Z') &&
    c != '<' && c != '>'

/-- Reads what follows a backslash. -/
def readEscape (f : Flags) : List Char → Option (Primitive × List Char)
  | [] => none
  | c :: rest =>
    let char (c : Char) : Option (Primitive × List Char) := some (.char c, rest)
    let anchor (a : Anchor) : Option (Primitive × List Char) := some (.anchor a, rest)
    let set (negated : Bool) (s : CharSet) : Option (Primitive × List Char) :=
      (f.negate negated s).map (.set ·, rest)
    let point (digits : Nat) : Option (Primitive × List Char) :=
      (readCodePoint f digits rest).map fun (c, after) => (.char c, after)
    let property (negated : Bool) : Option (Primitive × List Char) :=
      (readProperty f negated rest).map fun (s, after) => (.set s, after)
    match c with
    | 'x' => point 2
    | 'u' => point 4
    | 'U' => point 8
    | 'p' => property false
    | 'P' => property true
    | 'd' => set false f.digit
    | 'D' => set true f.digit
    | 's' => set false f.blank
    | 'S' => set true f.blank
    | 'w' => set false f.word
    | 'W' => set true f.word
    | 'a' => char '\x07'
    | 'f' => char '\x0c'
    | 't' => char '\t'
    | 'n' => char '\n'
    | 'r' => char '\r'
    | 'v' => char '\x0b'
    | 'A' => anchor .textStart
    | 'z' => anchor .textEnd
    | 'B' => anchor (.insideOrOutside f.word)
    | '<' => anchor (.wordStart f.word)
    | '>' => anchor (.wordEnd f.word)
    | 'b' => (readBoundary f rest).map fun (a, after) => (.anchor a, after)
    | c => if isEscapable c then char c else none

/-! ## Bracketed sets -/

/-- A set, and how deep brackets nest in it. -/
structure SetPiece where
  set : CharSet
  depth : Nat := 0

/-- The items of a union that have been read. -/
structure Union where
  set : CharSet := .empty
  count : Nat := 0
  depth : Nat := 0

namespace Union

def add (u : Union) (p : SetPiece) : Union where
  set := u.set.union p.set
  count := u.count + 1
  depth := max u.depth p.depth

/-- A union of several items is one level deeper than its items. -/
def toPiece (u : Union) : SetPiece where
  set := u.set
  depth := if u.count ≤ 1 then u.depth else u.depth + 1

end Union

inductive SetOperator where
  | intersection
  | difference
  | symmetricDifference

def SetOperator.apply : SetOperator → CharSet → CharSet → CharSet
  | intersection => CharSet.intersection
  | difference => CharSet.difference
  | symmetricDifference => CharSet.symmetricDifference

/-- Applies the operator before a union to what stands on its left. -/
def combine (f : Flags) (left : Option (SetPiece × SetOperator)) (right : SetPiece) : SetPiece :=
  match left with
  | none => right
  | some (left, op) => {
      set := op.apply (f.fold left.set) (f.fold right.set)
      depth := max left.depth right.depth + 1 }

/-- A single item of a union: a character, or a class. -/
def readSetItem (f : Flags) : List Char → Option (Primitive × List Char)
  | [] => none
  | '\\' :: rest => readEscape f rest
  | c :: rest => some (.char c, rest)

/-- A character that may stand in a set; without classes beyond ASCII it has to be ASCII. -/
def setChar? (f : Flags) : Primitive → Option Char
  | .char c => if f.unicode || CharSet.ascii.contains c then some c else none
  | _ => none

def itemPiece? (f : Flags) : Primitive → Option SetPiece
  | .char c => (setChar? f (.char c)).map fun c => { set := .single c }
  | .set s => some { set := s }
  | .anchor _ => none

/-- The character that says whether a hyphen before it makes a range. Where white space says nothing
it is passed over, and so is one number sign, but not the comment after it. -/
def afterHyphen? (f : Flags) (cs : List Char) : Option Char :=
  if !f.verbose then cs.head?
  else
    match cs.dropWhile Text.isBlank with
    | '#' :: rest => (rest.dropWhile Text.isBlank).head? <|> cs.head?
    | rest => rest.head? <|> cs.head?

/-- An item or a range. A hyphen before a closing bracket or another hyphen makes no range. -/
def readRange (f : Flags) (cs : List Char) : Option (SetPiece × List Char) := do
  let (first, rest) ← readSetItem f cs
  match f.skip rest with
  | [] => none
  | '-' :: more =>
    match afterHyphen? f more with
    | some ']' | some '-' => (itemPiece? f first).map (·, '-' :: more)
    | _ => do
      let (last, after) ← readSetItem f (f.skip more)
      let first ← setChar? f first
      let last ← setChar? f last
      if last < first then none else some ({ set := CharSet.range first last }, after)
  | rest => (itemPiece? f first).map (·, rest)

/-- A class between colons, as in `[:alpha:]`, after its opening bracket. -/
def readAsciiClass? (cs : List Char) : Option (Bool × CharSet × List Char) :=
  match cs with
  | ':' :: rest =>
    let (negated, rest) :=
      match rest with
      | '^' :: rest => (true, rest)
      | rest => (false, rest)
    let (name, after) := rest.span (· ≠ ':')
    match after with
    | ':' :: ']' :: after => (CharSet.asciiClass? name).map (negated, ·, after)
    | _ => none
  | _ => none

/-- Hyphens at the start of a set stand for themselves, and after none of them a closing bracket. -/
def readLeading (f : Flags) (u : Union) : Nat → List Char → Union × List Char
  | 0, cs => (u, cs)
  | fuel + 1, cs =>
    match f.skip cs with
    | '-' :: rest => readLeading f (u.add { set := .single '-' }) fuel rest
    | ']' :: rest => if u.count = 0 then (u.add { set := .single ']' }, rest) else (u, ']' :: rest)
    | rest => (u, rest)

/-- Whether a set is negated, its first items, and what follows them. -/
def readOpening (f : Flags) (cs : List Char) : Bool × Union × List Char :=
  let (negated, rest) :=
    match f.skip cs with
    | '^' :: rest => (true, rest)
    | rest => (false, rest)
  let (u, rest) := readLeading f {} rest.length rest
  (negated, u, rest)

/-- Reads the items of a set up to its closing bracket. A bracketed set is one level deeper than
what is in it. -/
def readItems (f : Flags) (negated : Bool) :
    Nat → Option (SetPiece × SetOperator) → Union → List Char → Option (SetPiece × List Char)
  | 0, _, _, _ => none
  | fuel + 1, left, u, cs =>
    let operator (op : SetOperator) (rest : List Char) : Option (SetPiece × List Char) :=
      readItems f negated fuel (some (combine f left u.toPiece, op)) {} rest
    match f.skip cs with
    | [] => none
    | '[' :: rest =>
      match readAsciiClass? rest with
      | some (complement, s, after) => do
        let s ← f.negate complement (f.fold s)
        readItems f negated fuel left (u.add { set := s }) after
      | none => do
        let (inner, first, rest) := readOpening f rest
        let (p, after) ← readItems f inner fuel none first rest
        readItems f negated fuel left (u.add p) after
    | ']' :: rest => do
      let p := combine f left u.toPiece
      let s ← f.negate negated (f.fold p.set)
      some ({ set := s, depth := p.depth + 1 }, rest)
    | '&' :: '&' :: rest => operator .intersection rest
    | '-' :: '-' :: rest => operator .difference rest
    | '~' :: '~' :: rest => operator .symmetricDifference rest
    | rest => do
      let (p, after) ← readRange f rest
      readItems f negated fuel left (u.add p) after

/-- Reads a bracketed set after its opening bracket. -/
def readSet (f : Flags) (cs : List Char) : Option (SetPiece × List Char) :=
  let (negated, first, rest) := readOpening f cs
  readItems f negated (cs.length + 1) none first rest

end Regex

end Searchlight
