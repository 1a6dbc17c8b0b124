/-!
# ASCII case

Folding the case of ASCII letters and of nothing else.
-/

namespace Searchlight

def asciiLower (c : Char) : Char :=
  if 'A' ≤ c && c ≤ 'Z' then Char.ofNat (c.toNat + 32) else c

/-- Equality up to the case of ASCII letters. -/
def sameIgnoringAsciiCase (a b : List Char) : Bool :=
  a.map asciiLower == b.map asciiLower

end Searchlight
