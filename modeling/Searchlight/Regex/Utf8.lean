import Searchlight.Regex.CharSet

/-!
# Sets of characters as sequences of bytes

The UTF-8 forms of the characters in a set are described by sequences of byte ranges: one from each
range of a sequence makes a character of the set. Sequences stand in the order of the characters.
-/

namespace Searchlight

namespace CharSet

/-- A range of bytes. -/
abbrev Bytes := Nat × Nat

/-- The bytes of a code point. -/
def encode (n : Nat) : List Nat :=
  if n < 0x80 then [n]
  else if n < 0x800 then [0xc0 + n / 64, 0x80 + n % 64]
  else if n < 0x10000 then [0xe0 + n / 64 / 64, 0x80 + n / 64 % 64, 0x80 + n % 64]
  else [0xf0 + n / 64 / 64 / 64, 0x80 + n / 64 / 64 % 64, 0x80 + n / 64 % 64, 0x80 + n % 64]

/-- The parts of a range with forms of one length each. -/
def byLength (first last : Nat) : List (Nat × Nat) :=
  [(0, 0x7f), (0x80, 0x7ff), (0x800, 0xffff), (0x10000, 0x10ffff)].filterMap
    fun (least, most) =>
      if max first least ≤ min last most then some (max first least, min last most) else none

/-- Cuts a range into parts in which every byte runs through a range of its own, whatever the others
are. Blocks of `size` numbers share all but the last bytes; what fills no whole block is cut off at
either end, and the blocks between are cut by larger ones. -/
def cut : Nat → Nat → Nat → Nat → List (Nat × Nat)
  | 0, _, first, last => [(first, last)]
  | levels + 1, size, first, last =>
    if first / size = last / size then [(first, last)]
    else
      let low := (first + size - 1) / size * size
      let high := (last + 1) / size * size
      (if first < low then [(first, low - 1)] else []) ++
        (if low < high then cut levels (size * 64) low (high - 1) else []) ++
        (if high ≤ last then [(high, last)] else [])

def rangeSequences (first last : Nat) : List (List Bytes) :=
  (byLength first last).flatMap fun (first, last) =>
    if last < 0x80 then [[(first, last)]]
    else (cut 3 64 first last).map fun (first, last) => (encode first).zip (encode last)

def byteSequences (s : CharSet) : List (List Bytes) :=
  s.ranges.flatMap fun (first, last) => rangeSequences first last

end CharSet

end Searchlight
