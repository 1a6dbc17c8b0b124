import Searchlight.Regex.Basic
import Searchlight.Text.Bytes

/-!
# Simple expressions

An expression is made simpler without a change to what matches it. Sequences do not nest in
sequences and have no empty parts, and texts next to each other are joined; choices do not nest in
choices, a choice of characters is a set, and what all branches begin with stands in front of the
choice.
-/

namespace Searchlight

namespace Regex

/-! ## Lengths -/

/-- The least number of bytes that match, unless an impossible part takes away the bound. -/
def leastBytes : Regex → Option Nat
  | empty | anchor _ => some 0
  | text cs => some (Text.byteLength cs)
  | one s => s.ranges.head?.map fun (first, _) => (Char.ofNat first).utf8Size
  | seq r s => do some ((← leastBytes r) + (← leastBytes s))
  | either r s => do some (min (← leastBytes r) (← leastBytes s))
  | repeated r least _ _ => (leastBytes r).map (least * ·)
  | group _ r => leastBytes r

/-- The greatest number of bytes that match, if there is a bound. -/
def mostBytes : Regex → Option Nat
  | empty | anchor _ => some 0
  | text cs => some (Text.byteLength cs)
  | one s => s.ranges.getLast?.map fun (_, last) => (Char.ofNat last).utf8Size
  | seq r s => do some ((← mostBytes r) + (← mostBytes s))
  | either r s => do some (max (← mostBytes r) (← mostBytes s))
  | repeated r _ most _ => do some ((← most) * (← mostBytes r))
  | group _ r => mostBytes r

/-! ## Anchored ends -/

/-- Whether all matches begin where an anchor holds. -/
def beginsWith (a : Anchor) : Regex → Bool
  | empty | text _ | one _ => false
  | anchor b => a = b
  | seq r s => beginsWith a r || (mostBytes r = some 0 && beginsWith a s)
  | either r s => beginsWith a r && beginsWith a s
  | repeated r least _ _ => 0 < least && beginsWith a r
  | group _ r => beginsWith a r

/-- Whether all matches end where an anchor holds. -/
def endsWith (a : Anchor) : Regex → Bool
  | empty | text _ | one _ => false
  | anchor b => a = b
  | seq r s => endsWith a s || (mostBytes s = some 0 && endsWith a r)
  | either r s => endsWith a r && endsWith a s
  | repeated r least _ _ => 0 < least && endsWith a r
  | group _ r => endsWith a r

/-! ## Sequences -/

/-- The parts of a sequence, in order. -/
def parts : Regex → List Regex
  | empty => []
  | seq r s => parts r ++ parts s
  | r => [r]

/-- Puts a part in front of others; two texts make one. -/
def addPart (r : Regex) (later : List Regex) : List Regex :=
  match r, later with
  | text cs, text ds :: rest => text (cs ++ ds) :: rest
  | r, later => r :: later

def simpleSequence (rs : List Regex) : Regex :=
  sequence ((rs.flatMap parts).foldr addPart [])

/-! ## Choices -/

def ofSet (s : CharSet) : Regex :=
  match s.single? with
  | some c => text [c]
  | none => one s

/-- The branches of a choice, in order. -/
def branches : Regex → List Regex
  | either r s => branches r ++ branches s
  | r => [r]

def char? : Regex → Option Char
  | text [c] => some c
  | _ => none

def set? : Regex → Option CharSet
  | one s => some s
  | _ => none

/-- What two lists begin with. -/
def commonStart : List Regex → List Regex → List Regex
  | r :: rs, s :: ss => if r = s then r :: commonStart rs ss else []
  | _, _ => []

/-- The parts that all of several sequences begin with. There are none if an expression among them
is no sequence. -/
def sharedStart : List Regex → List Regex
  | [] => []
  | [r] => sequenceParts r
  | r :: rest => commonStart (sequenceParts r) (sharedStart rest)
where
  sequenceParts : Regex → List Regex
    | seq r s => parts (seq r s)
    | _ => []

/-- A choice of expressions. What their first parts share is taken out at most `fuel` times. -/
def simpleChoice (fuel : Nat) (rs : List Regex) : Regex :=
  let rs := rs.flatMap branches
  match rs with
  | [] => impossible
  | [r] => r
  | _ =>
    match rs.mapM char?, rs.mapM set? with
    | some cs, _ => ofSet (.ofPoints (cs.map Char.toNat))
    | none, some sets => ofSet (.unions sets)
    | none, none =>
      match fuel, sharedStart rs with
      | 0, _ | _, [] => choice rs
      | fuel + 1, start =>
        let rests := rs.map fun r => sequence ((parts r).drop start.length)
        simpleSequence (start ++ [simpleChoice fuel rests])

/-! ## Repetition -/

/-- Repeats an expression. One that only the empty text matches need not be repeated. -/
def simpleRepetition (r : Regex) (least : Nat) (most : Option Nat) (short : Bool) : Regex :=
  let (least, most) :=
    if mostBytes r = some 0 then (min least 1, some (min (most.getD 1) 1)) else (least, most)
  match least, most with
  | 0, some 0 => empty
  | 1, some 1 => r
  | least, most => repeated r least most short

/-! ## Expressions -/

/-- How many expressions there are in an expression, itself included. -/
def count : Regex → Nat
  | empty | text _ | one _ | anchor _ => 1
  | seq r s | either r s => count r + count s + 1
  | repeated r _ _ _ | group _ r => count r + 1

/-- The parts of what several branches, given by their parts, come to. -/
def simpleParts : List (List Regex) → List Regex
  | [rs] => rs
  | branches =>
    let rs := branches.map sequence
    parts (simpleChoice (rs.foldl (fun n r => n + count r) 0) rs)

/-- The branches of an expression, each of them given by its parts and made simpler. -/
def simpleBranches : Regex → List (List Regex)
  | empty => [[]]
  | text cs => [[text cs]]
  | one s => [[ofSet s]]
  | anchor a => [[anchor a]]
  | seq r s => [(simpleParts (simpleBranches r)).foldr addPart (simpleParts (simpleBranches s))]
  | either r s => simpleParts (simpleBranches r) :: simpleBranches s
  | repeated r least most short =>
    let r := sequence (simpleParts (simpleBranches r))
    [parts (simpleRepetition r least most short)]
  | group none r => [simpleParts (simpleBranches r)]
  | group (some n) r => [[group (some n) (sequence (simpleParts (simpleBranches r)))]]

def simplify (r : Regex) : Regex := sequence (simpleParts (simpleBranches r))

end Regex

end Searchlight
