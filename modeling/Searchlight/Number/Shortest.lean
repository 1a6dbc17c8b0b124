import Searchlight.Number.Decimal

/-!
# Shortest decimals of binary numbers

`shortest` finds the decimal with the fewest digits that reads back as a given number, and of those
the nearest. For one digit, two digits and so on it tries the two neighbours of the number on that
decimal grid; when none reads back it gives the exact decimal expansion, which every binary number
has. A `FloatStyle` then says where positional notation ends and how the parts are spelt.
-/

namespace Searchlight

/-- Which of two equally near decimals is taken. -/
inductive DecimalTie where
  | away
  | even
  deriving DecidableEq

/-- The integer `k` with `10 ^ k ≤ num / den < 10 ^ (k + 1)`, for positive arguments. -/
def floorLog10 (num den : Nat) : Int :=
  let k : Int := (digitCount num : Int) - digitCount den
  if num * power 10 (-k) < den * power 10 k then k - 1 else k

/-- Removes trailing zeros, at most `fuel` of them, and counts them into the exponent. -/
def stripZeros : Nat → Nat → Int → Nat × Int
  | 0, digits, exponent => (digits, exponent)
  | fuel + 1, digits, exponent =>
    if digits % 10 = 0 then stripZeros fuel (digits / 10) (exponent + 1) else (digits, exponent)

namespace BinaryFormat

variable (f : BinaryFormat)

/-- Whether `digits * 10 ^ exponent` is read as the number of this rank. -/
def readsBack (rank digits : Nat) (exponent : Int) : Bool :=
  f.nearestRank (digits * power 10 exponent) (power 10 (-exponent)) == rank

/-- The better of the two neighbours of `num / den` on the grid of step `10 ^ exponent`, if one of
them reads back. -/
def onGrid? (tie : DecimalTie) (rank num den : Nat) (exponent : Int) : Option (Nat × Int) :=
  let scaled := num * power 10 (-exponent)
  let unit := den * power 10 exponent
  let below := scaled / unit
  let twice := 2 * (scaled % unit)
  let upFirst := unit < twice ∨ (unit = twice ∧ (tie = .away ∨ below % 2 = 1))
  let candidates := if upFirst then [below + 1, below] else [below, below + 1]
  (candidates.find? (f.readsBack rank · exponent)).map (·, exponent)

/-- Digits and exponent of the shortest decimal of a positive rank. -/
def shortest (tie : DecimalTie) (rank : Nat) : Nat × Int :=
  let (m, e) := f.magnitude rank
  let num := m * power 2 e
  let den := power 2 (-e)
  let top := floorLog10 num den
  let counts := (List.range 17).map (· + 1)
  match counts.findSome? fun (n : Nat) => f.onGrid? tie rank num den (top - n + 1) with
  | some (digits, exponent) => stripZeros (digitCount digits) digits exponent
  | none => (num * power 5 (-e), min e 0)

end BinaryFormat

/-- How the text of a number is laid out: the decimal exponents (of the first digit) written
positionally, and whether a positional integer keeps a fraction of zero. -/
structure FloatStyle where
  tie : DecimalTie
  positional : Int → Bool
  pointZero : Bool

def zeros (n : Nat) : List Char := List.replicate n '0'

namespace FloatStyle

/-- Digits of a number whose point stands after `point` of them. -/
def positionalText (style : FloatStyle) (digits : List Char) (point : Int) : List Char :=
  if point ≤ 0 then '0' :: '.' :: zeros (-point).toNat ++ digits
  else if digits.length ≤ point.toNat then
    digits ++ zeros (point.toNat - digits.length) ++ (if style.pointZero then ['.', '0'] else [])
  else digits.take point.toNat ++ '.' :: digits.drop point.toNat

/-- One digit, the others after a point, and a signed exponent. -/
def scientificText (digits : List Char) (exponent : Int) : List Char :=
  let mantissa :=
    match digits with
    | d :: (e :: rest) => d :: '.' :: e :: rest
    | ds => ds
  mantissa ++ 'e' :: (if exponent < 0 then '-' else '+') :: Nat.toDigits 10 exponent.natAbs

def signText (negative : Bool) : List Char := if negative then ['-'] else []

def write (style : FloatStyle) {f : BinaryFormat} : Binary f → List Char
  | .nan => ['N', 'a', 'N']
  | .infinite negative => signText negative ++ ['i', 'n', 'f']
  | .finite negative rank =>
    if rank.val = 0 then signText negative ++ '0' :: (if style.pointZero then ['.', '0'] else [])
    else
      let (digits, exponent) := f.shortest style.tie rank
      let ds := Nat.toDigits 10 digits
      let first := exponent + ds.length - 1
      signText negative ++
        (if style.positional first then style.positionalText ds (first + 1)
         else scientificText ds first)

end FloatStyle

namespace Binary

/-- Diagnostics, trees and query strings never use an exponent and drop a fraction of zero. -/
def plain : FloatStyle := ⟨.away, fun _ => true, false⟩

/-- Documents keep a fraction of zero and write an exponent below `1e-5` and from `1e16` on. -/
def documented : FloatStyle := ⟨.even, fun e => -5 ≤ e && e ≤ 15, true⟩

def text {f : BinaryFormat} (x : Binary f) : String := String.ofList (plain.write x)

def documentText {f : BinaryFormat} (x : Binary f) : String := String.ofList (documented.write x)

/-- A single-precision number as documents hold it: its shortest decimal, read at double precision.
-/
def widen : Single → Double
  | .nan => .nan
  | .infinite negative => .infinite negative
  | .finite negative rank =>
    if rank.val = 0 then .nearest negative 0 1
    else
      let (digits, exponent) := BinaryFormat.single.shortest .away rank
      Decimal.toBinary ⟨negative, digits, exponent⟩

end Binary

end Searchlight
