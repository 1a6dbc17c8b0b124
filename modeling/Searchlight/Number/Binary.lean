/-!
# Binary floating-point numbers

A format with `precision` significant bits and `exponentBits` exponent bits has finitely many
non-negative values. They are counted upwards from zero, so a finite number is a sign and a rank,
and every rank below `limit` stands for exactly one magnitude `mantissa * 2 ^ exponent`. Rounding
takes an exact quotient to the nearest magnitude, a tie to the even mantissa.
-/

namespace Searchlight

structure BinaryFormat where
  precision : Nat
  exponentBits : Nat
  deriving DecidableEq

namespace BinaryFormat

/-- The smallest mantissa of full precision; this many magnitudes share an exponent. -/
def leading (f : BinaryFormat) : Nat := Nat.pow 2 (f.precision - 1)

/-- Number of finite magnitudes, zero included. -/
def limit (f : BinaryFormat) : Nat :=
  (Nat.pow 2 f.exponentBits - 1) * f.leading

/-- Exponent of the smallest positive magnitude. -/
def minExponent (f : BinaryFormat) : Int :=
  3 - Nat.pow 2 (f.exponentBits - 1) - f.precision

/-- No magnitude other than zero lies outside `2 ^ (-reach)` to `2 ^ reach`. -/
def reach (f : BinaryFormat) : Nat :=
  Nat.pow 2 (f.exponentBits - 1) + f.precision

def single : BinaryFormat := ⟨24, 8⟩

def double : BinaryFormat := ⟨53, 11⟩

end BinaryFormat

inductive Binary (f : BinaryFormat) where
  | finite (negative : Bool) (rank : Fin f.limit)
  | infinite (negative : Bool)
  | nan
  deriving DecidableEq

abbrev Single := Binary .single

abbrev Double := Binary .double

/-- A base to an integer exponent, or one where the exponent is negative: `m * base ^ e` is the
quotient of `m * power base e` and `power base (-e)`. -/
def power (base : Nat) (exponent : Int) : Nat := Nat.pow base exponent.toNat

/-- The quotient `num / den` rounded to the nearest integer, a tie to the even one. -/
def roundHalfEven (num den : Nat) : Nat :=
  let quotient := num / den
  let remainder := num % den
  if den < 2 * remainder ∨ (den = 2 * remainder ∧ quotient % 2 = 1) then quotient + 1 else quotient

/-- The integer `e` with `2 ^ e ≤ num / den < 2 ^ (e + 1)`, for positive arguments. -/
def floorLog2 (num den : Nat) : Int :=
  let e : Int := (Nat.log2 num : Int) - Nat.log2 den
  if num * power 2 (-e) < den * power 2 e then e - 1 else e

namespace BinaryFormat

/-- Rank of the magnitude nearest to `num / den`; a rank of `limit` or more means overflow. -/
def nearestRank (f : BinaryFormat) (num den : Nat) : Nat :=
  if num = 0 then 0
  else
    let exponent := max (floorLog2 num den - (f.precision - 1 : Nat)) f.minExponent
    let mantissa := roundHalfEven (num * power 2 (-exponent)) (den * power 2 exponent)
    (exponent - f.minExponent).toNat * f.leading + mantissa

/-- Mantissa and exponent of the magnitude of a rank. -/
def magnitude (f : BinaryFormat) (rank : Nat) : Nat × Int :=
  if rank < f.leading then (rank, f.minExponent)
  else (f.leading + rank % f.leading, f.minExponent + (rank / f.leading : Nat) - 1)

end BinaryFormat

namespace Binary

variable {f : BinaryFormat}

def ofRank (negative : Bool) (rank : Nat) : Binary f :=
  if h : rank < f.limit then .finite negative ⟨rank, h⟩ else .infinite negative

/-- The number nearest to the quotient `num / den`. -/
def nearest (negative : Bool) (num den : Nat) : Binary f :=
  ofRank negative (f.nearestRank num den)

def isFinite : Binary f → Bool
  | .finite _ _ => true
  | _ => false

/-- Numeric equality: both zeros are equal, and a number that is none equals nothing. -/
def same : Binary f → Binary f → Bool
  | .finite s a, .finite t b => a.val == b.val && (s == t || a.val == 0)
  | .infinite s, .infinite t => s == t
  | _, _ => false

/-- The place of a number in numeric order, unless it is none. -/
def place? : Binary f → Option Int
  | .finite negative rank => some (if negative then -(rank.val : Int) else rank.val)
  | .infinite negative => some (if negative then -(f.limit : Int) else f.limit)
  | .nan => none

/-- Numeric order. A number that is none is in no order with any. -/
def compare? (x y : Binary f) : Option Ordering :=
  match x.place?, y.place? with
  | some a, some b => some (compare a b)
  | _, _ => none

/-- Strictly above zero. -/
def isPositive : Binary f → Bool
  | .finite negative rank => !negative && rank.val != 0
  | .infinite negative => !negative
  | .nan => false

/-- The rounded product. -/
def mul : Binary f → Binary f → Binary f
  | .nan, _ | _, .nan => .nan
  | .infinite s, .infinite t => .infinite (s != t)
  | .infinite s, .finite t b => if b.val = 0 then .nan else .infinite (s != t)
  | .finite s a, .infinite t => if a.val = 0 then .nan else .infinite (s != t)
  | .finite s a, .finite t b =>
    let (m, e) := f.magnitude a
    let (n, d) := f.magnitude b
    let exponent := e + d
    nearest (s != t) (m * n * power 2 exponent) (power 2 (-exponent))

/-- The same number in another format, rounded where it does not fit. -/
def convert {g : BinaryFormat} : Binary f → Binary g
  | .nan => .nan
  | .infinite s => .infinite s
  | .finite s a =>
    let (m, e) := f.magnitude a
    nearest s (m * power 2 e) (power 2 (-e))

def one : Binary f := nearest false 1 1

end Binary

end Searchlight
