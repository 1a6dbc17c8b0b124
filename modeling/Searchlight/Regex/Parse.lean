import Searchlight.Regex.Set
import Searchlight.Regex.Size

/-!
# Reading regular expressions

Branches are separated by bars, and a branch is a sequence of items, each of which may be repeated.
Groups nest, and those that do not begin with a question mark or have a name are numbered; flags
that are set inside a group hold up to its end. Expressions that nest too deeply or grow too large
are refused.
-/

namespace Searchlight

namespace Regex

/-- A part of an expression, and how deep it nests. -/
structure Piece where
  regex : Regex
  depth : Nat := 0
  /-- Flags are no item that could be repeated. -/
  repeatable : Bool := true

/-- The rest of an expression, the flags that hold there, how many numbered groups began before and
the names among them. -/
structure Reading where
  rest : List Char
  flags : Flags := {}
  groups : Nat := 0
  names : List (List Char) := []

/-- The items of a branch, given from last to first, as one piece. -/
def joinItems (items : List Piece) : Piece :=
  match items with
  | [] => { regex := empty }
  | [p] => p
  | items => {
      regex := sequence (items.reverse.map (·.regex))
      depth := (items.map (·.depth)).foldl max 0 + 1 }

/-- Branches, given from last to first, as one piece. -/
def joinBranches (branches : List Piece) : Piece :=
  match branches with
  | [p] => p
  | branches => {
      regex := choice (branches.reverse.map (·.regex))
      depth := (branches.map (·.depth)).foldl max 0 + 1 }

/-! ## Repetition -/

/-- Repeats the last item. -/
def repeatLast (least : Nat) (most : Option Nat) (short : Bool) :
    List Piece → Option (List Piece)
  | [] => none
  | p :: before =>
    if p.repeatable then
      some ({ regex := repeated p.regex least most short, depth := p.depth + 1 } :: before)
    else none

/-- Reads a question mark, with which a repetition prefers short matches where it would else prefer
long ones. -/
def readPreference (f : Flags) : List Char → Bool × List Char
  | '?' :: rest => (!f.short, rest)
  | rest => (f.short, rest)

/-- A 32-bit number between optional blanks; nothing where there are no digits. -/
def readCount (f : Flags) (cs : List Char) : Option (Option Nat × List Char) :=
  let (digits, rest) := digitsOf false (cs.dropWhile Text.isBlank)
  let rest := f.skip (rest.dropWhile Text.isBlank)
  if digits.isEmpty then some (none, rest)
  else if digitsValue digits < 0x100000000 then some (some (digitsValue digits), rest)
  else none
where
  /-- Digits, with whatever says nothing between them. -/
  digitsOf (comment : Bool) : List Char → List Char × List Char
    | [] => ([], [])
    | c :: rest =>
      if comment then digitsOf (c ≠ '\n') rest
      else if isAsciiDigit c then
        let (digits, after) := digitsOf false rest
        (c :: digits, after)
      else if f.verbose && Text.isBlank c then digitsOf false rest
      else if f.verbose && c = '#' then digitsOf true rest
      else ([], c :: rest)

/-- Reads the bounds of a repetition after an opening brace. -/
def readBounds (f : Flags) (cs : List Char) : Option (Nat × Option Nat × List Char) := do
  let (least, rest) ← readCount f (f.skip cs)
  let least ← least
  match rest with
  | '\x7d' :: rest => some (least, some least, rest)
  | ',' :: rest =>
    match f.skip rest with
    | '\x7d' :: rest => some (least, none, rest)
    | rest => do
      let (most, rest) ← readCount f rest
      let most ← most
      match rest with
      | '\x7d' :: rest => if least ≤ most then some (least, some most, rest) else none
      | _ => none
  | _ => none

/-! ## Groups and flags -/

def setFlag (on : Bool) (f : Flags) : Char → Option Flags
  | 'i' => some { f with ignoreCase := on }
  | 'm' => some { f with multiLine := on }
  | 's' => some { f with dotAll := on }
  | 'R' => some { f with crlf := on }
  | 'u' => some { f with unicode := on }
  | 'x' => some { f with verbose := on }
  | 'U' => some { f with short := on }
  | _ => none

/-- Reads flags up to a closing parenthesis or a colon, with those that have been `seen`. Flags
after a hyphen, of which there is one at most and not the last, are switched off. -/
def readFlags (seen : List Char) (f : Flags) : List Char → Option (Flags × Char × List Char)
  | [] => none
  | c :: rest =>
    if c = ':' || c = ')' then
      if seen.head? = some '-' || (seen.isEmpty && c = ')') then none else some (f, c, rest)
    else if seen.contains c then none
    else if c = '-' then readFlags (c :: seen) f rest
    else do readFlags (c :: seen) (← setFlag (!seen.contains '-') f c) rest

def isNameStart (c : Char) : Bool := c = '_' || Text.isAlphabetic c

def isNamePart (c : Char) : Bool :=
  c = '_' || c = '.' || c = '[' || c = ']' || Text.isAlphanumeric c

/-- Reads a new group name up to its closing angle bracket. -/
def readName (names : List (List Char)) (cs : List Char) : Option (List Char × List Char) :=
  match cutAt ['>'] cs with
  | some (c :: name, after) =>
    if isNameStart c && name.all isNamePart && !names.contains (c :: name) then
      some (c :: name, after)
    else none
  | _ => none

inductive GroupStart where
  /-- Flags for the rest of the group around them. -/
  | flags (after : Reading)
  | group (number : Option Nat) (inside : Reading)

/-- Reads what follows an opening parenthesis. There is no looking around. -/
def readGroupStart (r : Reading) : Option GroupStart :=
  let number := r.groups + 1
  match r.flags.skip r.rest with
  | '?' :: '=' :: _ | '?' :: '!' :: _ | '?' :: '<' :: '=' :: _ | '?' :: '<' :: '!' :: _ => none
  | '?' :: 'P' :: '<' :: rest | '?' :: '<' :: rest => do
    let (name, after) ← readName r.names rest
    some (.group number { r with rest := after, groups := number, names := name :: r.names })
  | '?' :: rest => do
    let (f, mark, after) ← readFlags [] r.flags rest
    let next : Reading := { r with rest := after, flags := f }
    some (if mark = ')' then .flags next else .group none next)
  | rest => some (.group number { r with rest := rest, groups := number })

/-! ## Items and branches -/

def lineAnchor (f : Flags) (text line anyLine : Anchor) : Piece where
  regex := anchor (if !f.multiLine then text else if f.crlf then anyLine else line)

def charPiece (f : Flags) (c : Char) : Piece where
  regex := one (f.fold (.single c))

def primitivePiece (f : Flags) : Primitive → Piece
  | .char c => charPiece f c
  | .set s => { regex := one s }
  | .anchor a => { regex := anchor a }

def readSingle (f : Flags) : List Char → Option (Piece × List Char)
  | [] => none
  | '\\' :: rest => (readEscape f rest).map fun (p, after) => (primitivePiece f p, after)
  | '.' :: rest => if f.unicode then some ({ regex := one f.dot }, rest) else none
  | '^' :: rest => some (lineAnchor f .textStart .lineStart .anyLineStart, rest)
  | '$' :: rest => some (lineAnchor f .textEnd .lineEnd .anyLineEnd, rest)
  | '[' :: rest =>
    (readSet f rest).map fun (p, after) => ({ regex := one p.set, depth := p.depth }, after)
  | c :: rest => some (charPiece f c, rest)

/-- Reads up to the end or to a closing parenthesis that belongs to no group inside. -/
def readBranches : Nat → Reading → List Piece → List Piece → Option (Piece × Reading)
  | 0, _, _, _ => none
  | fuel + 1, r, items, branches =>
    let f := r.flags
    let next (rest : List Char) : Reading := { r with rest := rest }
    let again (least : Nat) (most : Option Nat) (rest : List Char) : Option (Piece × Reading) := do
      let (short, rest) := readPreference f rest
      readBranches fuel (next rest) (← repeatLast least most short items) branches
    match f.skip r.rest with
    | [] => some (joinBranches (joinItems items :: branches), next [])
    | ')' :: rest => some (joinBranches (joinItems items :: branches), next (')' :: rest))
    | '|' :: rest => readBranches fuel (next rest) [] (joinItems items :: branches)
    | '?' :: rest => again 0 (some 1) rest
    | '*' :: rest => again 0 none rest
    | '+' :: rest => again 1 none rest
    | '\x7b' :: rest => do
      let (least, most, rest) ← readBounds f rest
      again least most (f.skip rest)
    | '(' :: rest => do
      match ← readGroupStart (next rest) with
      | .flags after =>
        readBranches fuel after ({ regex := empty, repeatable := false } :: items) branches
      | .group number inside =>
        let (p, after) ← readBranches fuel inside [] []
        match after.rest with
        | ')' :: rest =>
          let p : Piece := { regex := group number p.regex, depth := p.depth + 1 }
          readBranches fuel { after with rest := rest, flags := f } (p :: items) branches
        | _ => none
    | rest => do
      let (p, after) ← readSingle f rest
      readBranches fuel (next after) (p :: items) branches

def maxDepth : Nat := 250

/-- Reads a whole text as a regular expression. -/
def read? (pattern : String) : Option Regex := do
  let cs := pattern.toList
  let (p, r) ← readBranches (cs.length + 1) { rest := cs } [] []
  if r.rest.isEmpty && p.depth ≤ maxDepth && p.regex.fits then some p.regex else none

end Regex

end Searchlight
