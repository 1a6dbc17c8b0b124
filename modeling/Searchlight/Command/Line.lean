import Searchlight.Text.Search

/-!
# Command lines

Arguments are options with one or two hyphens, operands, or the name of a subcommand that takes over
the rest. After two hyphens alone everything is an operand. The value of an option stands in the
same argument or in the next one; a value that is awaited is recorded when the next option or
operand begins.
-/

namespace Searchlight

namespace Command

/-- Why a command line is answered without running a command. -/
inductive UsageFault where
  | help
  | version
  | nothingGiven
  | missingSubcommand
  | missingArgument
  | missingValue
  | unwantedValue
  | invalidValue
  | unknownArgument
  | unknownSubcommand
  | conflict
  deriving DecidableEq

namespace UsageFault

def message : UsageFault → String
  | help => "Rewrite full-text query strings into search-engine query documents"
  | version => "ftq"
  | nothingGiven => "a subcommand is needed: rewrite, ast, highlight, fields, init, check or config"
  | missingSubcommand => "a subcommand is needed after the options"
  | missingArgument => "a required argument is missing"
  | missingValue => "an option lacks its value"
  | unwantedValue => "an option takes no value"
  | invalidValue => "a value is not of the form FIELD=VALUE"
  | unknownArgument => "unexpected argument"
  | unknownSubcommand => "unknown subcommand"
  | conflict => "arguments that cannot be used together"

/-- Answers that were asked for are no failures. -/
def status : UsageFault → Nat
  | help | version => 0
  | _ => 2

end UsageFault

inductive OptionKind where
  | help
  | version
  /-- May be given any number of times. -/
  | count
  | switch
  | setting
  /-- A setting that must not be empty. -/
  | path
  /-- A name and a value with an equals sign between them; may be repeated. -/
  | pair
  deriving DecidableEq

structure Opt where
  name : String
  short : Option Char := none
  kind : OptionKind
  deriving DecidableEq

def Opt.takesValue (o : Opt) : Bool :=
  match o.kind with
  | .setting | .path | .pair => true
  | .help | .version | .count | .switch => false

inductive Operands where
  | none
  | one
  | many
  deriving DecidableEq

/-- What may stand on a command line. -/
structure Grammar where
  options : List Opt
  operands : Operands := .none
  subcommands : List String := []

/-- What a command line says so far. -/
structure Given where
  switches : List String := []
  settings : List (String × String) := []
  operands : List String := []
  /-- The last option that takes a value, and the value unless it is still to come. -/
  awaited : Option (Opt × Option String) := Option.none

namespace Given

/-- The values of an option, in the order in which they were given. -/
def values (g : Given) (name : String) : List String :=
  (g.settings.filter (·.1 == name)).map (·.2)

def value? (g : Given) (name : String) : Option String := (g.values name).head?

def has (g : Given) (name : String) : Bool := g.switches.contains name

end Given

/-- A name and a value; the name ends at the first equals sign and is not empty. -/
def splitPair? (s : String) : Option (String × String) :=
  match s.toList.span (· ≠ '=') with
  | (name, '=' :: value) =>
    if name.isEmpty then none else some (String.ofList name, String.ofList value)
  | _ => none

def record (g : Given) (o : Opt) (value : String) : Except UsageFault Given :=
  let added : Given := { g with settings := g.settings ++ [(o.name, value)] }
  if o.kind = .pair then
    if (splitPair? value).isSome then .ok added else .error .invalidValue
  else if (g.value? o.name).isSome then .error .conflict
  else if o.kind = .path && value.isEmpty then .error .missingValue
  else .ok added

/-- Records the awaited value. -/
def settle (g : Given) : Except UsageFault Given :=
  match g.awaited with
  | none => .ok g
  | some (_, none) => .error .missingValue
  | some (o, some value) => record { g with awaited := none } o value

def switchOn (g : Given) (o : Opt) : Except UsageFault Given := do
  let g ← settle g
  match o.kind with
  | .help => .error .help
  | .version => .error .version
  | .count => .ok { g with switches := g.switches ++ [o.name] }
  | _ =>
    if g.has o.name then .error .conflict
    else .ok { g with switches := g.switches ++ [o.name] }

/-- Gives a value to an option, or awaits one. -/
def assign (g : Given) (o : Opt) (value : Option String) : Except UsageFault Given := do
  let g ← settle g
  match value with
  | some v => record g o v
  | none => .ok { g with awaited := some (o, none) }

/-- Reads an argument after two hyphens. -/
def readLong (grammar : Grammar) (g : Given) (cs : List Char) : Except UsageFault Given :=
  let (name, after) := cs.span (· ≠ '=')
  match grammar.options.find? (·.name == String.ofList name) with
  | none => .error .unknownArgument
  | some o =>
    match after with
    | [] => if o.takesValue then assign g o none else switchOn g o
    | _ :: value =>
      if o.takesValue then assign g o (some (String.ofList value)) else .error .unwantedValue

/-- Reads an argument after one hyphen: switches, or at last an option with its value. -/
def readShort (grammar : Grammar) (g : Given) : List Char → Except UsageFault Given
  | [] => .ok g
  | c :: rest =>
    match grammar.options.find? (·.short == some c) with
    | none => .error .unknownArgument
    | some o =>
      if o.takesValue then
        match rest with
        | [] => assign g o none
        | '=' :: value => assign g o (some (String.ofList value))
        | value => assign g o (some (String.ofList value))
      else do
        let g ← switchOn g o
        readShort grammar g rest

def readOperand (grammar : Grammar) (g : Given) (s : String) : Except UsageFault Given :=
  let added : Except UsageFault Given :=
    (settle g).map fun g => { g with operands := g.operands ++ [s] }
  match grammar.operands with
  | .none => .error (if grammar.subcommands.isEmpty then .unknownArgument else .unknownSubcommand)
  | .one => if g.operands.isEmpty then added else .error .unknownArgument
  | .many => added

/-- Reads what comes after two hyphens alone. -/
def readOperands (grammar : Grammar) (g : Given) : List String → Except UsageFault Given
  | [] => settle g
  | s :: rest =>
    if grammar.subcommands.contains s then .error .unknownArgument
    else do
      let g ← readOperand grammar g s
      readOperands grammar g rest

/-- Reads arguments up to the end or to a subcommand, which is given with what follows it. -/
def readLine (grammar : Grammar) (g : Given) :
    List String → Except UsageFault (Given × Option (String × List String))
  | [] => (settle g).map (·, none)
  | s :: rest =>
    if grammar.subcommands.contains s then .ok (g, some (s, rest))
    else
      match s.toList with
      | ['-', '-'] => (readOperands grammar g rest).map (·, none)
      | '-' :: '-' :: cs => do
        let g ← readLong grammar g cs
        readLine grammar g rest
      | '-' :: c :: cs => do
        let g ← readShort grammar g (c :: cs)
        readLine grammar g rest
      | _ =>
        match g.awaited with
        | some (o, none) => readLine grammar { g with awaited := some (o, some s) } rest
        | _ => do
          let g ← readOperand grammar g s
          readLine grammar g rest

end Command

end Searchlight
