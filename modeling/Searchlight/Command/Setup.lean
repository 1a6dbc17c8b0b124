import Searchlight.Command.Query
import Searchlight.Config.Check
import Searchlight.Config.Template

/-!
# Commands on the configuration

Listing the mapped fields, checking and showing the configuration, and creating a configuration
file.
-/

namespace Searchlight

namespace Command

/-! ## Fields -/

def fieldJson (f : FieldMapping) : Json :=
  .object ([
    ("name", .string f.name),
    ("path", .string f.path),
    ("type", .string f.type.name),
    ("analyzer", .string f.analyzerName)] ++
    (match f.nested with
      | some path => [("nested", .string path)]
      | none => []) ++
    if f.aliases.isEmpty then [] else [("aliases", .array (f.aliases.map .string))])

def fieldRow (f : FieldMapping) : List String :=
  [f.name, f.path, f.type.name, f.analyzerName, f.nested.getD "", ", ".intercalate f.aliases]

def fieldHeader : List String := ["Name", "Path", "Type", "Analyzer", "Nested", "Aliases"]

def fieldLines (c : Config) (fields : List FieldMapping) : List String :=
  strong ("Fields of index '" ++ c.index.name ++ "':") ::
    if fields.isEmpty then [
      "   " ++ dim "(none mapped)",
      "",
      "Declare [fields.NAME] tables or an [index] mapping file in " ++
        strong Config.fileName ++ "."]
    else
      Display.grid fieldHeader (fields.map fieldRow) ::
        (c.index.defaultField.map fun f => dim ("default field: " ++ f)).toList

def runFields (s : Session) (mapping : Option String) (json : Bool) : Outcome :=
  Outcome.ofExcept (fun m =>
    let fields := m.fields.mergeSort fun f g => f.name ≤ g.name
    if json then Outcome.lines [(Json.array (fields.map fieldJson)).indentedText]
    else Outcome.lines (fieldLines s.config fields)) (mappingsFor s mapping)

/-! ## Checking -/

def hint? : Config.Warning → Option String
  | .noFields => some "Hint: add [fields.NAME] tables or set [index] mapping in .ftq.toml"
  | .unmappedDefault _ => some "Hint: map the default field or change [index] default_field"
  | .unknownAnalyzer _ _ =>
    some "Hint: known analyzers are standard, simple, whitespace and keyword"
  | .aliasCollision _ _ _ | .nestedNotPrefix _ _ _ => none

def settingLines (s : Config.IndexSettings) : List String :=
  ["   " ++ s.name] ++
    (s.defaultField.map fun f => "   " ++ dim ("default field: " ++ f)).toList ++
    (if s.asFilter then ["   " ++ dim "rewritten as a base filter"] else []) ++
    (s.mapping.map fun path => "   " ++ dim ("mapping: " ++ path)).toList

/-- Says what the warnings are; there are no issues if there are none. -/
def showWarnings (warnings : List Config.Warning) : Outcome :=
  if warnings.isEmpty then Outcome.lines [Display.Tone.success.paint "No issues found."]
  else
    { Outcome.lines
        ([strong ("Warnings (" ++ warnings.length.repr ++ "):")] ++
          warnings.map (fun w => "   " ++ Display.Tone.warning.paint w.message) ++ [""] ++
          (warnings.filterMap hint?).map dim) with
      status := 1 }

def showMappings (c : Config) (m : Mappings) : Outcome :=
  (showWarnings (Config.warnings c.index.defaultField m)).after
    (Outcome.lines [strong "Fields:", "   " ++ m.fields.length.repr ++ " mapped", ""]).out

def runCheck (s : Session) : Outcome :=
  match Config.discover s.place s.directory with
  | [] =>
    Outcome.lines [
      dim "No configuration files found.",
      "",
      "Run " ++ strong "ftq init" ++ " to create a configuration file."]
  | files =>
    (Outcome.ofExcept (showMappings s.config) (mappingsFor s none)).after
      (Outcome.lines
        ([strong "Config files:"] ++ files.map ("   " ++ ·) ++ [""] ++
          [strong "Index:"] ++ settingLines s.config.index ++ [""])).out

/-! ## Creating a configuration file -/

/-- A configuration file as it is shown: dimmed, every line anew. -/
def shownTemplate (template : String) : String :=
  let line (cs : List Char) : List Char :=
    ' ' :: ' ' :: Display.Tone.dim.code.toList ++ cs ++ ['\n']
  String.ofList ((Text.lines template.toList).flatMap line) ++ "  " ++ Display.reset

/-- The configuration file to create and what goes into it. The home directory has a configuration
file of its own kind. -/
def templateFor (place : Config.Place) (directory : String) (home : Bool) :
    Except String (String × String) :=
  match Config.globalFile? place with
  | none =>
    if home then .error "could not determine home directory"
    else .ok (Path.join directory Config.fileName, Config.projectTemplate)
  | some path =>
    if home || (Path.parent? path).any (Path.same directory) then .ok (path, Config.homeTemplate)
    else .ok (Path.join directory Config.fileName, Config.projectTemplate)

def runCreate (place : Config.Place) (directory : String) (home force : Bool) :
    Outcome × FileTree :=
  let files := place.files
  match templateFor place directory home with
  | .error message => (Outcome.failure message, files)
  | .ok (path, template) =>
    if files.exists? path && !force then
      (Outcome.failure
        ("configuration file already exists: " ++ path ++ "\nuse --force to overwrite"), files)
    else
      match files.save path template with
      | .error fault =>
        (Outcome.failure ("failed to write " ++ path ++ ": " ++ fault.message), files)
      | .ok saved =>
        (Outcome.lines [
          "Created " ++ path,
          "",
          strong "Configuration written:",
          shownTemplate template], saved)

end Command

end Searchlight
