import Searchlight.Text.Table

/-!
# Sets of characters

A set of characters is given by the ranges of code points in it. Ranges stand in increasing order
with gaps between them, so that a set is written in one way only. Surrogates are in no set.
-/

namespace Searchlight

structure CharSet where
  ranges : List (Nat × Nat)
  deriving DecidableEq

namespace CharSet

def contains (s : CharSet) (c : Char) : Bool :=
  s.ranges.any fun (first, last) => first ≤ c.toNat && c.toNat ≤ last

def empty : CharSet := ⟨[]⟩

def isEmpty (s : CharSet) : Bool := s.ranges.isEmpty

def single (c : Char) : CharSet := ⟨[(c.toNat, c.toNat)]⟩

/-- The character of a set that has no other. -/
def single? (s : CharSet) : Option Char :=
  match s.ranges with
  | [(first, last)] => if first = last then some (Char.ofNat first) else none
  | _ => none

def any : CharSet := ⟨[(0, 0xd7ff), (0xe000, 0x10ffff)]⟩

def ascii : CharSet := ⟨[(0, 0x7f)]⟩

/-- Whether a set has ASCII characters only. -/
def isAscii (s : CharSet) : Bool := s.ranges.all fun (_, last) => last < 0x80

/-- The ranges of two lists, each in increasing order, as one such list. -/
def merge (r s : List (Nat × Nat)) : List (Nat × Nat) :=
  List.merge r s fun (a, _) (b, _) => a ≤ b

/-- Joins ranges that touch or overlap. The ranges are in increasing order of their first points. -/
def join : List (Nat × Nat) → List (Nat × Nat)
  | [] => []
  | (a, b) :: rest => joinFrom a b rest
where
  joinFrom (first last : Nat) : List (Nat × Nat) → List (Nat × Nat)
    | [] => [(first, last)]
    | (a, b) :: rest =>
      if a ≤ last + 1 then joinFrom first (max last b) rest else (first, last) :: joinFrom a b rest

def union (a b : CharSet) : CharSet := ⟨join (merge a.ranges b.ranges)⟩

/-- What lies between ranges from a point on. -/
def gaps (start : Nat) : List (Nat × Nat) → List (Nat × Nat)
  | [] => if start ≤ 0x10ffff then [(start, 0x10ffff)] else []
  | (first, last) :: rest =>
    if start < first then (start, first - 1) :: gaps (last + 1) rest else gaps (last + 1) rest

def surrogates : List (Nat × Nat) := [(0xd800, 0xdfff)]

def negated (s : CharSet) : CharSet := ⟨gaps 0 (join (merge s.ranges surrogates))⟩

def intersection (a b : CharSet) : CharSet := (a.negated.union b.negated).negated

def difference (a b : CharSet) : CharSet := (a.negated.union b).negated

def symmetricDifference (a b : CharSet) : CharSet := (a.union b).difference (a.intersection b)

/-- The characters from the first to the last one. -/
def range (first last : Char) : CharSet := intersection any ⟨[(first.toNat, last.toNat)]⟩

/-- The code points of a list, which may be in any order. -/
def ofPoints (points : List Nat) : CharSet :=
  ⟨join ((points.mergeSort).map fun n => (n, n))⟩

/-- The union of several sets. -/
def unions (sets : List CharSet) : CharSet := sets.foldl union empty

/-- The set with the given points of change, beginning outside the set. -/
def ofChanges : List Nat → List (Nat × Nat)
  | [] => []
  | [first] => [(first, 0x10ffff)]
  | first :: after :: rest => (first, after - 1) :: ofChanges rest

def ofTable (t : Text.Table Unit) : CharSet := ⟨ofChanges (t.entries.toList.map (·.1))⟩

/-- The code points whose run has a label that satisfies a condition. -/
def ofRuns {α : Type} (t : Text.Table α) (p : α → Bool) : CharSet :=
  ⟨join (labelled t.entries.toList)⟩
where
  labelled : List (Nat × α) → List (Nat × Nat)
    | [] => []
    | [(first, label)] => if p label then [(first, 0x10ffff)] else []
    | (first, label) :: (after, next) :: rest =>
      let later := labelled ((after, next) :: rest)
      if p label then (first, after - 1) :: later else later

end CharSet

end Searchlight
