import Searchlight.Number.Decimal
import Searchlight.Text.Blank

/-!
# Date values

A date is a calendar day, a day with a time of day, a full timestamp with an offset, or date math
that starts from `now`. Days follow the Gregorian calendar, extended to all years.
-/

namespace Searchlight

open Text

namespace Date

/-- Years a calendar day may lie in. -/
def minYear : Int := -262143

def maxYear : Int := 262142

def isLeapYear (year : Int) : Bool :=
  year % 4 = 0 && (year % 100 ≠ 0 || year % 400 = 0)

def daysInMonth (year : Int) (month : Nat) : Nat :=
  if month = 2 then if isLeapYear year then 29 else 28
  else if month = 4 ∨ month = 6 ∨ month = 9 ∨ month = 11 then 30
  else 31

def isDay (year : Int) (month day : Nat) : Bool :=
  minYear ≤ year && year ≤ maxYear && 1 ≤ month && month ≤ 12 && 1 ≤ day &&
    day ≤ daysInMonth year month

/-- The sixtieth second is the leap second. -/
def isTime (hour minute second : Nat) : Bool :=
  hour ≤ 23 && minute ≤ 59 && second ≤ 60

abbrev Reader (α : Type) := List Char → Option (α × List Char)

/-- Between one digit and `width` of them. -/
def digitsUpTo (width : Nat) : Reader Nat := fun cs =>
  let digits := (cs.take width).takeWhile isAsciiDigit
  if digits.isEmpty then none else some (digitsValue digits, cs.drop digits.length)

def exactDigits (width : Nat) : Reader Nat := fun cs =>
  let digits := cs.take width
  if digits.length = width && digits.all isAsciiDigit then
    some (digitsValue digits, cs.drop width)
  else none

def char (c : Char) : Reader Unit
  | d :: rest => if d = c then some ((), rest) else none
  | [] => none

/-! ## Loose forms: white space may stand before every number -/

def number : Reader Nat := fun cs => digitsUpTo 2 (trimStart cs)

/-- Four digits at most, or any number of them behind a sign. -/
def year : Reader Int := fun cs =>
  match trimStart cs with
  | '-' :: rest => (digitsUpTo rest.length rest).map fun (n, rest) => (-(n : Int), rest)
  | '+' :: rest => (digitsUpTo rest.length rest).map fun (n, rest) => ((n : Int), rest)
  | rest => (digitsUpTo 4 rest).map fun (n, rest) => ((n : Int), rest)

def day : Reader Bool := fun cs => do
  let (y, cs) ← year cs
  let ((), cs) ← char '-' cs
  let (m, cs) ← number cs
  let ((), cs) ← char '-' cs
  let (d, cs) ← number cs
  some (isDay y m d, cs)

def time : Reader Bool := fun cs => do
  let (h, cs) ← number cs
  let ((), cs) ← char ':' cs
  let (m, cs) ← number cs
  let ((), cs) ← char ':' cs
  let (s, cs) ← number cs
  some (isTime h m s, cs)

/-- The text is read to its end, and what was read is a date. -/
def accepted (result : Option (Bool × List Char)) : Bool :=
  match result with
  | some (valid, []) => valid
  | _ => false

def isDayText (cs : List Char) : Bool := accepted (day cs)

/-- A day, a separator, and a time of day. -/
def isDayTimeText (separator : List Char → Option (List Char)) (cs : List Char) : Bool :=
  accepted do
    let (validDay, cs) ← day cs
    let (validTime, cs) ← time (← separator cs)
    some (validDay && validTime, cs)

/-! ## Timestamps of fixed widths -/

def offset : Reader Bool := fun cs =>
  match cs with
  | 'Z' :: rest | 'z' :: rest => some (true, rest)
  | sign :: rest =>
    if sign = '+' || sign = '-' || sign = '\u2212' then do
      let (h, rest) ← exactDigits 2 rest
      let ((), rest) ← char ':' rest
      let (m, rest) ← exactDigits 2 rest
      some (h ≤ 23 && m ≤ 59, rest)
    else none
  | [] => none

def fraction (cs : List Char) : Option (List Char) :=
  match cs with
  | '.' :: rest =>
    let (digits, rest) := takeDigits rest
    if digits.isEmpty then none else some rest
  | rest => some rest

def isTimestamp (cs : List Char) : Bool :=
  accepted do
    let (y, cs) ← exactDigits 4 cs
    let ((), cs) ← char '-' cs
    let (m, cs) ← exactDigits 2 cs
    let ((), cs) ← char '-' cs
    let (d, cs) ← exactDigits 2 cs
    match cs with
    | [] => none
    | t :: cs => do
      if t = 'T' || t = 't' || t = ' ' then
        let (h, cs) ← exactDigits 2 cs
        let ((), cs) ← char ':' cs
        let (min, cs) ← exactDigits 2 cs
        let ((), cs) ← char ':' cs
        let (s, cs) ← exactDigits 2 cs
        let (validOffset, cs) ← offset (← fraction cs)
        some (isDay y m d && isTime h min s && validOffset, cs)
      else none

/-- `now`, alone or with something to add, subtract or round to. -/
def isDateMath : List Char → Bool
  | 'n' :: 'o' :: 'w' :: rest =>
    match rest with
    | [] => true
    | c :: _ => c = '+' || c = '-' || c = '/'
  | _ => false

def isDate (cs : List Char) : Bool :=
  isDateMath cs || isDayText cs || isTimestamp cs ||
    isDayTimeText (fun cs => some (trimStart cs)) cs ||
    isDayTimeText (fun cs => (char 'T' cs).map (·.2)) cs

end Date

end Searchlight
