import Searchlight.Command.Line

/-!
# Commands

What the program can be asked to do, and the command lines that ask for it.
-/

namespace Searchlight

namespace Command

/-- Settings of the command line that go before those of the configuration. -/
structure TargetOptions where
  index : Option String := none
  defaultField : Option String := none
  asFilter : Bool := false
  mapping : Option String := none
  deriving DecidableEq

/-- The stages of a query that can be shown. -/
inductive Stage where
  | tokens
  | parsed
  | resolved
  deriving DecidableEq

end Command

inductive Command where
  | documents (queries : List String) (target : Command.TargetOptions) (compact : Bool)
  | inspect (query : String) (target : Command.TargetOptions) (stage : Command.Stage)
  | highlight (query : String) (texts : List (String × String)) (target : Command.TargetOptions)
      (json : Bool)
  | fields (mapping : Option String) (json : Bool)
  /-- Creates a configuration file, in the home directory if `home` is set. -/
  | create (home force : Bool)
  | check
  | config

namespace Command

/-! ## Options -/

/-- Options of every command. How often `verbose` is given lets more into the log, below the level of
warnings, and changes nothing else. -/
def common : List Opt := [⟨"verbose", some 'v', .count⟩, ⟨"help", some 'h', .help⟩]

def mappingOption : Opt := ⟨"mapping", some 'm', .path⟩

def jsonOption : Opt := ⟨"json", none, .switch⟩

def targetOptions : List Opt := [
  ⟨"index", none, .setting⟩,
  ⟨"default-field", some 'd', .setting⟩,
  ⟨"filter", none, .switch⟩,
  mappingOption]

/-- The grammar of each subcommand, by its name. -/
def subcommands : List (String × Grammar) := [
  ("rewrite", {
    options := common ++ targetOptions ++ [⟨"compact", none, .switch⟩]
    operands := .many }),
  ("ast", {
    options := common ++ targetOptions ++ [⟨"parsed", none, .switch⟩, ⟨"tokens", none, .switch⟩]
    operands := .one }),
  ("highlight", {
    options := common ++ targetOptions ++ [⟨"text", some 't', .pair⟩, jsonOption]
    operands := .one }),
  ("fields", { options := common ++ [mappingOption, jsonOption] }),
  ("init", { options := common ++ [⟨"global", none, .switch⟩, ⟨"force", none, .switch⟩] }),
  ("check", { options := common }),
  ("config", { options := common })]

def subcommandNames : List String := subcommands.map (·.1) ++ ["help"]

/-- The grammar of what comes before a subcommand. -/
def program : Grammar where
  options := common ++ [⟨"version", some 'V', .version⟩]
  subcommands := subcommandNames

/-! ## From what is given to a command -/

def targetOf (g : Given) : TargetOptions where
  index := g.value? "index"
  defaultField := g.value? "default-field"
  asFilter := g.has "filter"
  mapping := g.value? "mapping"

/-- The single operand. -/
def operandOf (g : Given) : Except UsageFault String :=
  match g.operands with
  | s :: _ => .ok s
  | [] => .error .missingArgument

def inspectOf (g : Given) : Except UsageFault Command :=
  if g.has "parsed" && g.has "tokens" then .error .conflict
  else
    let stage := if g.has "tokens" then .tokens else if g.has "parsed" then .parsed else .resolved
    (operandOf g).map (inspect · (targetOf g) stage)

def highlightOf (g : Given) : Except UsageFault Command :=
  match operandOf g, (g.values "text").filterMap splitPair? with
  | .ok query, pair :: pairs => .ok (highlight query (pair :: pairs) (targetOf g) (g.has "json"))
  | _, _ => .error .missingArgument

def ofGiven (name : String) (g : Given) : Except UsageFault Command :=
  match name with
  | "rewrite" =>
    if g.operands.isEmpty then .error .missingArgument
    else .ok (documents g.operands (targetOf g) (g.has "compact"))
  | "ast" => inspectOf g
  | "highlight" => highlightOf g
  | "fields" => .ok (fields (g.value? "mapping") (g.has "json"))
  | "init" => .ok (create (g.has "global") (g.has "force"))
  | "check" => .ok check
  | "config" => .ok config
  | _ => .error .unknownSubcommand

/-- Help names at most one subcommand. -/
def helpFault (names : List String) : UsageFault :=
  match names with
  | [] => .help
  | [name] => if subcommandNames.contains name then .help else .unknownSubcommand
  | _ => .unknownSubcommand

/-- Reads a command line. -/
def ofArguments (args : List String) : Except UsageFault Command := do
  match ← readLine program {} args with
  | (g, none) => .error (if g.switches.isEmpty then .nothingGiven else .missingSubcommand)
  | (_, some (name, rest)) =>
    match subcommands.lookup name with
    | none => .error (helpFault rest)
    | some grammar =>
      let (g, _) ← readLine grammar {} rest
      ofGiven name g

end Command

end Searchlight
