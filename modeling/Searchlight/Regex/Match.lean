import Searchlight.Regex.Basic

/-!
# Matching regular expressions

A match takes a part of a text from one place to another; the places are numbered by the characters
before them. From a set of places where a match may start follows the set of places where it may
end.
-/

namespace Searchlight

namespace Regex

def Anchor.holdsAt (text : Array Char) (place : Nat) (a : Anchor) : Bool :=
  a.holds (if place = 0 then none else text[place - 1]?) text[place]?

/-- The places of both lists, those of the first list first. -/
def union (a b : List Nat) : List Nat :=
  a ++ b.filter fun place => !a.contains place

/-- What is reached by exactly so many steps. -/
def iterate (step : List Nat → List Nat) : Nat → List Nat → List Nat
  | 0, places => places
  | n + 1, places => if places.isEmpty then [] else iterate step n (step places)

/-- What is reached by so many steps or fewer, where `fresh` was reached last. -/
def spread (step : List Nat → List Nat) : Nat → List Nat → List Nat → List Nat
  | 0, _, reached => reached
  | n + 1, fresh, reached =>
    match (step fresh).filter fun place => !reached.contains place with
    | [] => reached
    | found => spread step n found (reached ++ found)

/-- The places after a character that is next at the given places. -/
def advance (text : Array Char) (p : Char → Bool) (places : List Nat) : List Nat :=
  (places.filter fun place => text[place]?.any p).map (· + 1)

/-- Where matches end that start at one of the given places. Without a limit on repetition one step
for each place is enough, since every step that counts reaches a new place. -/
def ends (text : Array Char) : Regex → List Nat → List Nat
  | empty, starts => starts
  | Regex.text cs, starts => cs.foldl (fun places c => advance text (· == c) places) starts
  | one set, starts => advance text set.contains starts
  | anchor a, starts => starts.filter fun place => Anchor.holdsAt text place a
  | seq r s, starts => ends text s (ends text r starts)
  | either r s, starts => union (ends text r starts) (ends text s starts)
  | repeated r least most _, starts =>
    let required := iterate (ends text r) least starts
    let further :=
      match most with
      | some most => most - least
      | none => text.size + 1
    spread (ends text r) further required required
  | group _ r, starts => ends text r starts

/-- Whether some part of a text matches. -/
def occursIn (r : Regex) (text : List Char) : Bool :=
  !(ends text.toArray r (List.range (text.length + 1))).isEmpty

end Regex

end Searchlight
