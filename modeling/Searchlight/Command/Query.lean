import Searchlight.Analysis.Highlight
import Searchlight.Command.Basic
import Searchlight.Command.Outcome
import Searchlight.Config.Load
import Searchlight.Display.Grid
import Searchlight.Expr.Canonical
import Searchlight.Expr.Diagnostic
import Searchlight.Expr.Outline
import Searchlight.Json.Write
import Searchlight.Query.Document
import Searchlight.Query.Outline
import Searchlight.Query.Resolution
import Searchlight.Query.Trace

/-!
# Commands on queries

Printing the documents of queries, showing the stages of a query, and highlighting field values. All
of them first settle what they work on: the mappings and options of the configuration, with the
settings of the command line before them.
-/

namespace Searchlight

namespace Command

/-- Where a command runs and what is configured there. -/
structure Session where
  place : Config.Place
  directory : String
  config : Config

/-- What queries are resolved against. -/
structure Target where
  /-- The index, which is named in the log only. -/
  index : String
  mappings : Mappings
  options : ResolveOptions

/-- The mappings in effect, with another mapping document if one is given. -/
def mappingsFor (s : Session) (document : Option String) : Except String Mappings :=
  let config :=
    match document with
    | some path =>
      { s.config with
        index := { s.config.index with mapping := some (Path.join s.directory path) } }
    | none => s.config
  (config.mappings s.place.files).mapError fun e => "failed to load field mappings: " ++ e.message

def targetFor (s : Session) (o : TargetOptions) : Except String Target :=
  (mappingsFor s o.mapping).map fun m => {
    index := o.index.getD s.config.index.name
    mappings := m
    options := {
      defaultField := o.defaultField.or s.config.index.defaultField
      asFilter := o.asFilter || s.config.index.asFilter } }

def parse (query : String) : Except String (Option Expr) :=
  (parseQuery query).mapError (·.report query)

def queryFor (t : Target) (query : String) : Except String Query := do
  let e ← parse query
  (resolve t.mappings.lookup t.options e).mapError (·.message)

/-- What is logged as a warning while a query is read and resolved. -/
def warningsFor (t : Target) (query : String) : List String :=
  ((queryEvents t.mappings.lookup t.options t.index query).filter (·.level = .warn)).map (·.message)

/-! ## Documents -/

def documentFor (t : Target) (query : String) : Except String Json := do
  let q ← queryFor t query
  q.document.mapError (·.message)

def documentText (compact : Bool) (d : Json) : String :=
  (if compact then d.compactText else d.indentedText) ++ "\n"

/-- Prints the documents of queries up to the first that has none. -/
def showDocuments (t : Target) (compact : Bool) : List String → Outcome
  | [] => {}
  | query :: rest =>
    (Outcome.ofExcept (fun d => (showDocuments t compact rest).after (documentText compact d))
      (documentFor t query)).warned (warningsFor t query)

def runDocuments (s : Session) (queries : List String) (o : TargetOptions) (compact : Bool) :
    Outcome :=
  Outcome.ofExcept (fun t => showDocuments t compact queries) (targetFor s o)

/-! ## Stages -/

/-- A token with its offset, right-aligned in four columns. -/
def tokenLine (t : Token) : String :=
  let offset := t.offset.repr
  String.ofList (List.replicate (4 - offset.length) ' ') ++ offset ++ "  " ++ t.kind.describe

def showTokens (query : String) : Outcome :=
  match tokenize query with
  | .ok ts => Outcome.lines (ts.map tokenLine)
  | .error e => Outcome.failure ((QueryFault.scan e).report query)

def showParsed : Option Expr → Outcome
  | some e => (Outcome.lines ["canonical: " ++ e.queryString]).after e.outline
  | none => Outcome.lines ["(empty)"]

def showResolved (t : Target) (query : String) : Outcome :=
  (Outcome.ofExcept (fun q => Outcome.lines [q.outline]) (queryFor t query)).warned
    (warningsFor t query)

/-- Shows a query at a stage. Its tokens need no mappings. -/
def runInspect (s : Session) (query : String) (o : TargetOptions) : Stage → Outcome
  | .tokens => showTokens query
  | .parsed => Outcome.ofExcept showParsed (do let _ ← targetFor s o; parse query)
  | .resolved => Outcome.ofExcept (showResolved · query) (targetFor s o)

/-! ## Highlights -/

def analyzeText (m : Mappings) (name value : String) :
    Except String Analysis.AnalyzedField :=
  match m.lookup name with
  | none => .error ("unknown field '" ++ name ++ "'")
  | some f => (Analysis.analyzeField f.toField value).mapError (·.message)

def highlightsFor (t : Target) (query : String) (fields : List Analysis.AnalyzedField) :
    Except String (List Analysis.Posting) := do
  let q ← queryFor t query
  (Analysis.highlight q fields).mapError (·.message)

def postingJson (p : Analysis.Posting) : Json :=
  .object [
    ("field_name", .string p.field),
    ("term", .string p.term),
    ("position", .integer p.position),
    ("start_offset", .integer p.start),
    ("end_offset", .integer p.stop)]

def postingRow (p : Analysis.Posting) : List String :=
  [p.field, p.term, p.position.repr, p.start.repr ++ ".." ++ p.stop.repr]

def showPostings (json : Bool) (ps : List Analysis.Posting) : Outcome :=
  if json then Outcome.lines [(Json.array (ps.map postingJson)).indentedText]
  else if ps.isEmpty then Outcome.lines [dim "No matching tokens."]
  else
    Outcome.lines [Display.grid ["Field", "Term", "Position", "Offsets"] (ps.map postingRow)]

/-- The texts are analyzed first, and the query is not read if that fails. -/
def showHighlights (t : Target) (query : String) (texts : List (String × String)) (json : Bool) :
    Outcome :=
  Outcome.ofExcept (fun fields =>
    (Outcome.ofExcept (showPostings json) (highlightsFor t query fields)).warned
      (warningsFor t query))
    (texts.mapM fun (name, value) => analyzeText t.mappings name value)

def runHighlight (s : Session) (query : String) (texts : List (String × String))
    (o : TargetOptions) (json : Bool) : Outcome :=
  Outcome.ofExcept (showHighlights · query texts json) (targetFor s o)

end Command

end Searchlight
