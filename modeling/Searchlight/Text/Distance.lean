/-!
# Edit distance

The least number of insertions, deletions and replacements of characters that turn one text into
another.
-/

namespace Searchlight.Text

/-- From the distances of a text to the prefixes of another one, those of the text with `c` added.
`corner` is the old distance to the prefix before `cs`, `left` the new one. -/
def nextDistances (c : Char) (corner left : Nat) : List Char → List Nat → List Nat
  | d :: ds, above :: row =>
    let distance := min (min (left + 1) (above + 1)) (if c = d then corner else corner + 1)
    distance :: nextDistances c above distance ds row
  | _, _ => []

/-- Goes through the first text. `row` holds the distances of what has been passed, of `passed`
characters, to the prefixes of the second text other than the empty one. -/
def distanceFrom (passed : Nat) (row : List Nat) (second : List Char) : List Char → Nat
  | [] => row.getLast?.getD passed
  | c :: rest =>
    distanceFrom (passed + 1) (nextDistances c passed (passed + 1) second row) second rest

def editDistance (first second : List Char) : Nat :=
  distanceFrom 0 ((List.range second.length).map (· + 1)) second first

end Searchlight.Text
