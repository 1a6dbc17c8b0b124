/-!
# White space

The characters with the white-space property, and the operations on text that go by them.
-/

namespace Searchlight.Text

/-- Tab to carriage return, space, next line, and the separators, as ranges of code points. -/
def blanks : List (Nat × Nat) := [
    (0x9, 0xd), (0x20, 0x20), (0x85, 0x85), (0xa0, 0xa0), (0x1680, 0x1680), (0x2000, 0x200a),
    (0x2028, 0x2029), (0x202f, 0x202f), (0x205f, 0x205f), (0x3000, 0x3000)]

def isBlank (c : Char) : Bool :=
  blanks.any fun (first, last) => first ≤ c.toNat && c.toNat ≤ last

/-- The maximal runs of characters that satisfy `p`. -/
def runs (p : Char → Bool) : List Char → List (List Char)
  | [] => []
  | c :: rest =>
    if p c then
      match rest, runs p rest with
      | d :: _, word :: words => if p d then (c :: word) :: words else [c] :: word :: words
      | _, words => [c] :: words
    else runs p rest

/-- The words of a text, separated by white space. -/
def words (cs : List Char) : List (List Char) :=
  runs (fun c => !isBlank c) cs

def trimStart (cs : List Char) : List Char :=
  cs.dropWhile isBlank

def trim (cs : List Char) : List Char :=
  (trimStart (trimStart cs).reverse).reverse

end Searchlight.Text
