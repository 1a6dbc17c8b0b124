/-!
# Tables over code points

A table is written as text, one word for each entry: a code point in lowercase hexadecimal and,
directly after it, a label. Entries stand in increasing order. A table is read in three ways: as
runs, where a label holds up to the next entry; as a set, where the entries are the points at which
membership changes; and as a finite map.
-/

namespace Searchlight.Text

structure Table (α : Type) where
  entries : Array (Nat × α)

def isHexDigit (c : Char) : Bool :=
  ('0' ≤ c && c ≤ '9') || ('a' ≤ c && c ≤ 'f')

def hexDigitValue (c : Char) : Nat :=
  if c ≤ '9' then c.toNat - '0'.toNat else c.toNat - 'a'.toNat + 10

def hexValue (cs : List Char) : Nat :=
  cs.foldl (fun n c => 16 * n + hexDigitValue c) 0

namespace Table

variable {α : Type}

/-- Reads the words of a table one by one, from the front. -/
def readWords (label : List Char → α) :
    List Char → List Char → Array (Nat × α) → Array (Nat × α)
  | [], word, done => if word.isEmpty then done else done.push (entry label word.reverse)
  | c :: rest, word, done =>
    if c = ' ' || c = '\n' then
      readWords label rest [] (if word.isEmpty then done else done.push (entry label word.reverse))
    else readWords label rest (c :: word) done
where
  entry (label : List Char → α) (word : List Char) : Nat × α :=
    let (digits, rest) := word.span isHexDigit
    (hexValue digits, label rest)

def ofText (label : List Char → α) (text : String) : Table α :=
  ⟨readWords label text.toList [] #[]⟩

/-- Bisects the entries from `low` on and below `high` for the number that start at `x` or before,
in at most `fuel` halvings. -/
def bisect (t : Table α) (x : Nat) : Nat → Nat → Nat → Nat
  | 0, low, _ => low
  | fuel + 1, low, high =>
    if low < high then
      let middle := (low + high) / 2
      match t.entries[middle]? with
      | none => low
      | some (start, _) =>
        if start ≤ x then bisect t x fuel (middle + 1) high else bisect t x fuel low middle
    else low

/-- Number of entries at `x` or before. -/
def countUpTo (t : Table α) (x : Nat) : Nat :=
  t.bisect x (Nat.log2 t.entries.size + 2) 0 t.entries.size

def entryBefore? (t : Table α) (x : Nat) : Option (Nat × α) :=
  match t.countUpTo x with
  | 0 => none
  | n + 1 => t.entries[n]?

/-- The label of the run that `x` lies in. -/
def run? (t : Table α) (x : Nat) : Option α :=
  (t.entryBefore? x).map (·.2)

/-- The label of the entry at `x` itself. -/
def find? (t : Table α) (x : Nat) : Option α :=
  (t.entryBefore? x).bind fun (start, label) => if start = x then some label else none

/-- The entries from one point up to another. -/
def within (t : Table α) (first last : Nat) : List (Nat × α) :=
  let below := match first with
    | 0 => 0
    | n + 1 => t.countUpTo n
  (t.entries.extract below (t.countUpTo last)).toList

/-- Membership changes at every entry, beginning outside the set. -/
def contains (t : Table α) (x : Nat) : Bool :=
  t.countUpTo x % 2 = 1

end Table

/-- A set of code points, written as the points at which membership changes. -/
def Table.setOfText (text : String) : Table Unit :=
  Table.ofText (fun _ => ()) text

end Searchlight.Text
