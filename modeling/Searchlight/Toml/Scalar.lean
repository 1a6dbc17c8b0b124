import Searchlight.Query.Date

/-!
# Numbers and dates in TOML

How far a number, a date or a time at the front of a text goes. No setting takes one, so its value
does not count.
-/

namespace Searchlight

namespace Toml

/-- Digits, with single underscores between them, and what follows them. -/
def digits (p : Char → Bool) : List Char → Option (List Char)
  | c :: rest => if p c then some (more rest) else none
  | [] => none
where
  more : List Char → List Char
    | '_' :: c :: rest => if p c then more rest else '_' :: c :: rest
    | c :: rest => if p c then more rest else c :: rest
    | [] => []

def isOctalDigit (c : Char) : Bool := '0' ≤ c && c ≤ '7'

def isBinaryDigit (c : Char) : Bool := c = '0' || c = '1'

def isHexDigit (c : Char) : Bool :=
  isAsciiDigit c || ('a' ≤ c && c ≤ 'f') || ('A' ≤ c && c ≤ 'F')

/-- An exponent, if there is one. -/
def exponent (cs : List Char) : Option (List Char) :=
  match cs with
  | 'e' :: rest | 'E' :: rest =>
    match rest with
    | '+' :: rest | '-' :: rest => digits isAsciiDigit rest
    | rest => digits isAsciiDigit rest
  | cs => some cs

/-- A number without a sign. Only a lone digit may be a zero at the front. -/
def unsigned (cs : List Char) : Option (List Char) :=
  match cs with
  | 'i' :: 'n' :: 'f' :: rest | 'n' :: 'a' :: 'n' :: rest => some rest
  | '0' :: rest => fraction rest
  | cs => (digits isAsciiDigit cs).bind fraction
where
  fraction : List Char → Option (List Char)
    | '.' :: rest => (digits isAsciiDigit rest).bind exponent
    | rest => exponent rest

def number (cs : List Char) : Option (List Char) :=
  match cs with
  | '+' :: rest | '-' :: rest => unsigned rest
  | '0' :: 'x' :: rest => digits isHexDigit rest
  | '0' :: 'o' :: rest => digits isOctalDigit rest
  | '0' :: 'b' :: rest => digits isBinaryDigit rest
  | cs => unsigned cs

/-- A time of day; seconds and parts of seconds may be left out. -/
def timeOfDay (cs : List Char) : Option (List Char) := do
  let (hour, rest) ← Date.exactDigits 2 cs
  let ((), rest) ← Date.char ':' rest
  let (minute, rest) ← Date.exactDigits 2 rest
  let (second, rest) ← seconds rest
  if Date.isTime hour minute second then some rest else none
where
  seconds : List Char → Option (Nat × List Char)
    | ':' :: rest => do
      let (second, rest) ← Date.exactDigits 2 rest
      match rest with
      | '.' :: c :: rest =>
        if isAsciiDigit c then some (second, rest.dropWhile isAsciiDigit) else none
      | rest => some (second, rest)
    | rest => some (0, rest)

/-- An offset from universal time, if there is one. -/
def offset (cs : List Char) : Option (List Char) :=
  match cs with
  | 'Z' :: rest | 'z' :: rest => some rest
  | '+' :: rest | '-' :: rest => do
    let (hour, rest) ← Date.exactDigits 2 rest
    let ((), rest) ← Date.char ':' rest
    let (minute, rest) ← Date.exactDigits 2 rest
    if Date.isTime hour minute 0 then some rest else none
  | cs => some cs

/-- A day, which a time may follow after a letter or a space. -/
def date (cs : List Char) : Option (List Char) := do
  let (year, rest) ← Date.exactDigits 4 cs
  let ((), rest) ← Date.char '-' rest
  let (month, rest) ← Date.exactDigits 2 rest
  let ((), rest) ← Date.char '-' rest
  let (day, rest) ← Date.exactDigits 2 rest
  if !Date.isDay year month day then none
  else
    match rest with
    | 'T' :: rest | 't' :: rest => (timeOfDay rest).bind offset
    | ' ' :: c :: later =>
      if isAsciiDigit c then (timeOfDay (c :: later)).bind offset else some rest
    | rest => some rest

/-- A number, a date or a time. Where one could begin in two ways, the dates come first. -/
def skipScalar (cs : List Char) : Option (List Char) :=
  date cs <|> timeOfDay cs <|> number cs

end Toml

end Searchlight
