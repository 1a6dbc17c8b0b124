import Searchlight.Regex.Simple
import Searchlight.Regex.Utf8
import Std.Data.HashMap

/-!
# How large expressions are

An expression is matched by two automata over bytes, one that reads forwards and one that reads
backwards, and each of them may take a fixed number of bytes of memory. A state takes a fixed number
of bytes, and more for the ways out of it where there may be several. An automaton is laid out state
by state, as far as it fits; of what is laid out only the size is kept, and whether the last state
is a fork, a state with several ways out that takes more memory when a way is added.
-/

namespace Searchlight

namespace Regex

inductive Direction where
  | forwards
  | backwards
  deriving DecidableEq

structure Layout where
  states : Nat := 0
  bytes : Nat := 0
  /-- Whether the last state is a fork. -/
  forked : Bool := false

/-- The number of bytes that an automaton may take. -/
def maxBytes : Nat := 10 * 1024 * 1024

namespace Layout

/-! ## States -/

/-- Adds memory for what is there. -/
def extend (bytes : Nat) (l : Layout) : Option Layout :=
  if l.bytes + bytes ≤ maxBytes then some { l with bytes := l.bytes + bytes } else none

/-- Adds a state with so many bytes for ways out of it. -/
def state (bytes : Nat) (l : Layout) : Option Layout :=
  Layout.extend (32 + bytes) { l with states := l.states + 1, forked := false }

/-- Adds ways out of a fork. -/
def ways (n : Nat) (l : Layout) : Option Layout := l.extend (4 * n)

/-- Leads on from the last state. -/
def lead (l : Layout) : Option Layout :=
  if l.forked then { l with forked := false }.ways 1 else some l

def fork (l : Layout) : Layout := { l with forked := true }

/-- Lays something out, given what is laid out before it. -/
abbrev Step := Layout → Option Layout

/-- Lays out the same thing so many times, where each time leads on to the next. -/
def copies (step : Step) : Nat → Step
  | 0, l => some l
  | n + 1, l =>
    match l.lead.bind step with
    | none => none
    | some l => copies step n l

/-- As `copies`; without any, there is an empty state. -/
def chain (step : Step) (n : Nat) (l : Layout) : Option Layout :=
  if n = 0 then l.state 0 else copies step n { l with forked := false }

/-! ## Texts -/

/-- Groups words by what they begin with, in order. Words that begin alike are next to each other;
empty words are left out. -/
def byFirst {α : Type} [DecidableEq α] : List (List α) → List (α × List (List α))
  | [] => []
  | [] :: rest => byFirst rest
  | (a :: w) :: rest =>
    match byFirst rest with
    | (b, ws) :: groups =>
      if a = b then (b, w :: ws) :: groups else (a, [w]) :: (b, ws) :: groups
    | [] => [(a, [w])]

/-- The runs of words before, between and after empty words. -/
def runs : List (List Nat) → List (List (List Nat))
  | [] => [[]]
  | [] :: rest => [] :: runs rest
  | w :: rest =>
    match runs rest with
    | run :: later => (w :: run) :: later
    | [] => [[w]]

/-- Lays out a tree of words, at most so many levels of it. Words that begin alike share states,
unless a word ends between them. A run of words is left by a single state, and a fork leads to the
runs and, for each word that ends, to the end; such words at the front count once. -/
def tree : Nat → List (List Nat) → Step
  | 0, _, l => some l
  | levels + 1, words, l =>
    if words.all (·.isEmpty) then some l
    else
      let starts := words.takeWhile (·.isEmpty)
      let between := runs (starts.take 1 ++ words.drop starts.length)
      let filled := between.filter fun run => !run.isEmpty
      let run (words : List (List Nat)) : Step := fun l =>
        let groups := byFirst (words.mergeSort fun v w => v.head?.getD 0 ≤ w.head?.getD 0)
        (groups.foldlM (fun l group => tree levels group.2 l) l).bind
          (state (if groups.length = 1 then 0 else 8 * groups.length))
      (filled.foldlM (fun l words => run words l) l).bind fun l =>
        (l.state 0).bind (ways (filled.length + (between.length - 1)))

def utf8 (cs : List Char) : List Nat := cs.flatMap fun c => CharSet.encode c.toNat

/-- Lays out a choice of texts. -/
def texts (d : Direction) (choices : List (List Char)) : Step := fun l =>
  let words := choices.map fun cs =>
    match d with
    | .forwards => utf8 cs
    | .backwards => (utf8 cs).reverse
  let levels := (words.map List.length).foldl max 0 + 1
  (l.state 0).bind (tree levels words)

/-! ## Sets -/

/-- States are found again by numbers that say what ways lead out of them. They are kept in a table
of fixed size, where a state takes the place of an earlier one whose numbers have the same hash. -/
structure Shared where
  layout : Layout
  size : Nat
  table : Std.HashMap Nat (List Nat × Nat) := ∅

namespace Shared

def mix (h : UInt64) (n : Nat) : UInt64 := (h ^^^ UInt64.ofNat n) * 1099511628211

def hash (ways : List Nat) : Nat := (ways.foldl mix 14695981039346656037).toNat

/-- The number of the state with these ways out, which is laid out unless it is found. -/
def find (ways : List Nat) (bytes : Nat) (s : Shared) : Option (Shared × Nat) :=
  let place := hash ways % s.size
  let number := s.layout.states
  let add : Option (Shared × Nat) :=
    (s.layout.state bytes).map fun l =>
      ({ s with layout := l, table := s.table.insert place (ways, number) }, number)
  match s.table.get? place with
  | some (known, number) => if known = ways then some (s, number) else add
  | none => add

/-- The number of a state from which sequences of byte ranges lead to a final state. -/
def forwards (final : Nat) : Nat → List (List CharSet.Bytes) → Shared → Option (Shared × Nat)
  | 0, _, s => some (s, final)
  | levels + 1, sequences, s =>
    match byFirst sequences with
    | [] => some (s, final)
    | groups => do
      let (s, ways) ← groups.foldlM (fun (s, ways) group =>
        (forwards final levels group.2 s).map fun (s, next) =>
          (s, ways ++ [group.1.1, group.1.2, next]))
        (s, [])
      s.find ways (8 * groups.length)

/-- The number of a state from which a sequence, read from its end, leads to another state. -/
def backwards (next : Nat) (sequence : List CharSet.Bytes) (s : Shared) :
    Option (Shared × Nat) :=
  sequence.foldlM (fun (s, next) (first, last) => s.find [next, first, last] 0) (s, next)

end Shared

/-- Lays out a set of characters. Sets of ASCII characters take a single state and an empty one. -/
def set (d : Direction) (cs : CharSet) : Step := fun l =>
  if cs.isAscii then (l.state 0).bind (state (8 * cs.ranges.length))
  else
    match d with
    | .forwards => do
      let final := l.states
      let s : Shared := { layout := ← l.state 0, size := 10000 }
      let (s, _) ← s.forwards final 4 cs.byteSequences
      some s.layout
    | .backwards => do
      let l ← l.state 0
      let final := l.states
      let s : Shared := { layout := ← l.state 0, size := 1000 }
      let s ← cs.byteSequences.foldlM (fun s sequence => do
        let (s, _) ← s.backwards final sequence
        some { s with layout := ← s.layout.ways 1 }) s
      some s.layout

/-! ## Expressions -/

/-- Lays out an expression as often as a repetition asks for. Where there is no limit, the
repetition ends in a fork. -/
def repetition (step : Step) (consumes : Bool) (least : Nat) (most : Option Nat) : Step := fun l =>
  match least, most with
  | 0, some 1 => l.state 0 >>= ways 2 >>= step >>= lead >>= state 0
  | 0, none =>
    if consumes then (l.state 0 >>= step >>= lead >>= ways 1).map fork
    else step l >>= lead >>= state 0 >>= state 0 >>= state 0 >>= ways 4
  | 1, none => (step l >>= lead >>= state 0 >>= ways 1).map fork
  | n + 2, none =>
    (chain step (n + 1) l >>= lead >>= step >>= lead >>= state 0 >>= ways 1).map fork
  | least, some most =>
    if least = most then chain step least l
    else
      chain step least l >>= lead >>= state 0 >>=
        copies (fun l => l.state 0 >>= ways 2 >>= step) (most - least) >>= lead

def text? : Regex → Option (List Char)
  | Regex.text cs => some cs
  | _ => none

/-- Lays out an expression. Inside a choice the branches that follow are laid out one after the
other, and it is left to the whole choice to lead on from the last one. -/
def expression (d : Direction) : Regex → Bool → Step
  | empty, _ | anchor _, _ => state 0
  | Regex.text cs, _ => chain (state 0) (Text.byteLength cs)
  | one s, _ => set d s
  | seq r s, _ => fun l =>
    match d with
    | .forwards => expression d r false l >>= lead >>= expression d s false
    | .backwards => expression d s false l >>= lead >>= expression d r false
  | either r s, true => fun l => expression d r false l >>= lead >>= expression d s true
  | either r s, false => fun l =>
    let rs := branches (either r s)
    match rs.mapM text? with
    | some choices => texts d choices l
    | none =>
      l.state 0 >>= state 0 >>= ways rs.length >>= expression d r false >>= lead >>=
        expression d s true >>= lead
  | repeated r least most _, _ =>
    repetition (expression d r false) (0 < (leastBytes r).getD 0) least most
  | group none r, _ => expression d r false
  | group (some _) r, _ =>
    match d with
    | .forwards => fun l => l.state 0 >>= expression d r false >>= lead >>= state 0
    | .backwards => expression d r false

/-- Lays out the way to where a match may start: there is one place only where the expression is
anchored, and any number of bytes may come before it elsewhere. -/
def approach (anchored : Bool) : Step := fun l =>
  if anchored then l.state 0 else l.state 0 >>= state 0 >>= state 8 >>= ways 2

/-- Lays out an automaton for an expression. The whole of a match is kept when reading forwards. -/
def automaton (d : Direction) (r : Regex) : Option Layout :=
  match d with
  | .forwards =>
    approach (beginsWith .textStart r) {} >>= expression d (group (some 0) r) false >>= state 0
  | .backwards =>
    approach (endsWith .textEnd r) {} >>= expression d r false >>= lead >>= state 0

end Layout

/-- Whether the automata of an expression are not too large. -/
def fits (r : Regex) : Bool :=
  let r := simplify r
  (Layout.automaton .backwards r).isSome && (Layout.automaton .forwards r).isSome

end Regex

end Searchlight
