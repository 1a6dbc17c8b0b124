import Searchlight.Number.Binary
import Searchlight.Text.Ascii

/-!
# Decimal numbers

A decimal is a sign, an integer of digits and a power of ten. Text is read into a decimal exactly;
only the step to a binary number rounds. `Binary.read?` reads a signed number with optional fraction
and exponent or one of the words for infinity and for a number that is none.
-/

namespace Searchlight

structure Decimal where
  negative : Bool
  digits : Nat
  /-- Power of ten that multiplies the digits. -/
  exponent : Int
  deriving DecidableEq

def isAsciiDigit (c : Char) : Bool := '0' ≤ c && c ≤ '9'

def digitValue (c : Char) : Nat := c.toNat - '0'.toNat

/-- The value of a run of digits, most significant first. -/
def digitsValue (cs : List Char) : Nat :=
  cs.foldl (fun n c => 10 * n + digitValue c) 0

/-- A run of digits and what follows it. -/
def takeDigits (cs : List Char) : List Char × List Char :=
  cs.span isAsciiDigit

def digitCount (n : Nat) : Nat := (Nat.toDigits 10 n).length

/-- An optional sign and what follows it. -/
def takeSign : List Char → Bool × List Char
  | '-' :: rest => (true, rest)
  | '+' :: rest => (false, rest)
  | rest => (false, rest)

/-- Reads an optional sign and at least one digit, and nothing else. -/
def readInteger? (cs : List Char) : Option Int :=
  let (negative, rest) := takeSign cs
  let (digits, after) := takeDigits rest
  if digits.isEmpty || !after.isEmpty then none
  else some (if negative then -(digitsValue digits : Int) else digitsValue digits)

namespace Decimal

/-- An exponent part: a marker, an optional sign and at least one digit. Nothing at all is zero. -/
def readExponent? : List Char → Option Int
  | [] => some 0
  | c :: rest => if c = 'e' || c = 'E' then readInteger? rest else none

/-- Reads digits with an optional fraction and exponent; one of the two parts may be empty. -/
def read? (negative : Bool) (cs : List Char) : Option Decimal :=
  let (whole, rest) := takeDigits cs
  let (fraction, rest) :=
    match rest with
    | '.' :: rest => takeDigits rest
    | rest => ([], rest)
  if whole.isEmpty && fraction.isEmpty then none
  else (readExponent? rest).map fun e =>
    ⟨negative, digitsValue (whole ++ fraction), e - fraction.length⟩

/-- The binary number nearest to a decimal. Decimals far outside the format's reach are settled by
their order of magnitude, without computing their powers of ten. -/
def toBinary {f : BinaryFormat} (d : Decimal) : Binary f :=
  if d.digits = 0 then .nearest d.negative 0 1
  else
    let order := d.exponent + digitCount d.digits
    if order < -f.reach then .nearest d.negative 0 1
    else if f.reach < order - 1 then .infinite d.negative
    else .nearest d.negative (d.digits * power 10 d.exponent) (power 10 (-d.exponent))

end Decimal

namespace Binary

/-- Reads a number written in decimal, `inf`, `infinity` or `nan` in any case. -/
def read? {f : BinaryFormat} (cs : List Char) : Option (Binary f) :=
  let (negative, rest) := takeSign cs
  if sameIgnoringAsciiCase rest "inf".toList || sameIgnoringAsciiCase rest "infinity".toList then
    some (.infinite negative)
  else if sameIgnoringAsciiCase rest "nan".toList then some .nan
  else (Decimal.read? negative rest).map Decimal.toBinary

end Binary

end Searchlight
