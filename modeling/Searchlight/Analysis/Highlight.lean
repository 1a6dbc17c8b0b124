import Searchlight.Analysis.Posting
import Searchlight.Query.Value
import Searchlight.Regex.Match
import Searchlight.Regex.Parse
import Searchlight.Regex.Wildcard
import Searchlight.Text.Distance

/-!
# Highlighting

The postings of analyzed fields that a query is about: each leaf that is not negated picks postings
of its field, and what the leaves pick together is put into canonical order.
-/

namespace Searchlight

namespace Analysis

/-! ## Comparing terms with values -/

def equalsValue (term : String) : Value → Bool
  | .text s => term == s
  | .integer n => FieldType.longValue? term.toList == some n
  | .float x =>
    match Binary.read? term.toList with
    | some y => y.same x
    | none => false
  | .boolean b => sameIgnoringAsciiCase term.toList (if b then "true" else "false").toList

/-- Texts are ordered by their characters, numbers by value. -/
def compareWith (term : String) : Value → Option Ordering
  | .text s => some (if term < s then .lt else if term = s then .eq else .gt)
  | .integer n => (FieldType.longValue? term.toList).map (compare · n)
  | .float x => (Binary.read? term.toList).bind (Binary.compare? · x)
  | .boolean _ => none

def isAbove (term : String) : Bound Value → Bool
  | .unbounded => true
  | .inclusive v => compareWith term v == some .gt || compareWith term v == some .eq
  | .exclusive v => compareWith term v == some .gt

def isBelow (term : String) : Bound Value → Bool
  | .unbounded => true
  | .inclusive v => compareWith term v == some .lt || compareWith term v == some .eq
  | .exclusive v => compareWith term v == some .lt

/-! ## Phrases -/

/-- The posting with the least position, the first one of several. -/
def earliest : List (Posting × Nat) → Option (Posting × Nat)
  | [] => none
  | p :: rest =>
    match earliest rest with
    | none => some p
    | some q => some (if q.1.position < p.1.position then q else p)

/-- The nearest posting of a term after a position. -/
def nearest (ps : List (Posting × Nat)) (position : Nat) (term : String) :
    Option (Posting × Nat) :=
  earliest (ps.filter fun (p, _) => position < p.position && p.term == term)

/-- Takes the nearest posting of each term, one after the other. -/
def chain (ps : List (Posting × Nat)) (position : Nat) :
    List String → Option (List (Posting × Nat))
  | [] => some []
  | term :: rest => do
    let next ← nearest ps position term
    let later ← chain ps next.1.position rest
    some (next :: later)

/-- Positions from the first to the last posting of a chain. -/
def extent (first : Posting) (later : List (Posting × Nat)) : Nat :=
  match later.getLast? with
  | some (last, _) => last.position - first.position
  | none => 0

/-- The chain that begins with a posting, if that is the first term and the extent leaves room for
no more than `slop` other positions. -/
def phraseAt (ps : List (Posting × Nat)) (slop : Nat) (first : String) (rest : List String)
    (start : Posting × Nat) : List Nat :=
  if start.1.term == first then
    match chain ps start.1.position rest with
    | some later =>
      if extent start.1 later - rest.length ≤ slop then start.2 :: later.map (·.2) else []
    | none => []
  else []

/-- Numbers of the postings that make up a phrase. -/
def phraseHits (ps : List Posting) (slop : Nat) : List String → List Nat
  | [] => []
  | first :: rest => ps.zipIdx.flatMap (phraseAt ps.zipIdx slop first rest)

/-! ## Leaves -/

/-- Numbers of the postings whose term satisfies a condition. -/
def termHits (ps : List Posting) (p : String → Bool) : List Nat :=
  (ps.zipIdx.filter fun (posting, _) => p posting.term).map (·.2)

/-- The edit distance allowed where none is given: longer texts allow more. -/
def automaticDistance (length : Nat) : Nat :=
  if length ≤ 2 then 0 else if length ≤ 5 then 1 else 2

/-- Numbers of the postings of a field that a leaf picks. -/
def leafHits (leaf : Query) (f : Field) (ps : List Posting) : Except Error (List Nat) := do
  let a ← analyzerOf f
  match leaf with
  | .term _ value => .ok (termHits ps (equalsValue · value))
  | .fullText _ text => .ok (termHits ps (a.terms text).contains)
  | .phrase _ text slop => .ok (phraseHits ps slop (a.terms text))
  | .range _ lower upper =>
    .ok (termHits ps fun term => isAbove term lower && isBelow term upper)
  | .wildcard _ pattern =>
    let folded := a.normalize pattern.toList
    let r := wildcardRegex (WildcardPart.ofPattern folded)
    if r.fits then .ok (termHits ps fun term => r.occursIn term.toList)
    else .error (.invalidPattern (String.ofList folded))
  | .regex _ pattern =>
    match Regex.read? ("^(?:" ++ pattern ++ ")$") with
    | none => .error (.invalidPattern pattern)
    | some r => .ok (termHits ps fun term => r.occursIn term.toList)
  | .fuzzy _ text distance =>
    let text := a.normalize text.toList
    let allowed := distance.getD (automaticDistance text.length)
    .ok (termHits ps fun term => Text.editDistance term.toList text ≤ allowed)
  | .exists _ => .ok (List.range ps.length)
  | .all | .nested _ _ | .bool _ _ _ _ | .boost _ _ => .ok []

/-- Field and posting numbers that a leaf picks in the analyzed fields with its path. -/
def fieldHits (leaf : Query) (f : Field) :
    List (AnalyzedField × Nat) → Except Error (List (Nat × Nat))
  | [] => .ok []
  | (analyzed, number) :: rest =>
    if analyzed.name == f.path then do
      let here ← leafHits leaf f analyzed.postings
      let later ← fieldHits leaf f rest
      .ok (here.map (number, ·) ++ later)
    else fieldHits leaf f rest

/-! ## Queries -/

mutual

/-- The leaves of a query that no negation is above, from left to right. -/
def positiveLeaves : Query → List (Query × Field)
  | .all => []
  | .nested _ q | .boost q _ => positiveLeaves q
  | .bool must filter should _ =>
    positiveLeavesAll must ++ positiveLeavesAll filter ++ positiveLeavesAll should
  | .term f v => [(.term f v, f)]
  | .fullText f s => [(.fullText f s, f)]
  | .phrase f s n => [(.phrase f s n, f)]
  | .range f a b => [(.range f a b, f)]
  | .wildcard f p => [(.wildcard f p, f)]
  | .fuzzy f s d => [(.fuzzy f s d, f)]
  | .regex f p => [(.regex f p, f)]
  | .exists f => [(.exists f, f)]

def positiveLeavesAll : List Query → List (Query × Field)
  | [] => []
  | q :: rest => positiveLeaves q ++ positiveLeavesAll rest

end

/-- The postings with the given field and posting numbers, once each. -/
def select (fields : List AnalyzedField) (hits : List (Nat × Nat)) : List Posting :=
  fields.zipIdx.flatMap fun (analyzed, i) =>
    (analyzed.postings.zipIdx.filter fun (_, j) => hits.contains (i, j)).map (·.1)

/-- The postings that a query picks, in canonical order. -/
def highlight (q : Query) (fields : List AnalyzedField) : Except Error (List Posting) := do
  let hits ← (positiveLeaves q).mapM fun (leaf, f) => fieldHits leaf f fields.zipIdx
  .ok (inOrder (select fields hits.flatten))

end Analysis

end Searchlight
