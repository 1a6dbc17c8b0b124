import Searchlight.Command.Setup

/-!
# Running commands

A command runs in a directory, with the files and the home directory there are. All commands but the
one that creates a configuration file load the configuration first.
-/

namespace Searchlight

namespace Command

/-- The directory that a path leads to, spelt without idle parts. -/
def workingDirectory (files : FileTree) (path : String) : String :=
  match files.canonicalize path with
  | .ok directory => directory
  | .error _ => path

/-- Loads the configuration and does what a command does in a session. -/
def inSession (place : Config.Place) (directory : String) (f : Session → Outcome) : Outcome :=
  Outcome.ofExcept (fun config => f ⟨place, directory, config⟩)
    ((Config.load place directory).mapError fun e => "failed to load configuration: " ++ e.message)

/-- The outcome of a command and the files after it. -/
def run (place : Config.Place) (path : String) (c : Command) : Outcome × FileTree :=
  let directory := workingDirectory place.files path
  let unchanged (f : Session → Outcome) := (inSession place directory f, place.files)
  match c with
  | documents queries target compact => unchanged (runDocuments · queries target compact)
  | inspect query target stage => unchanged (runInspect · query target stage)
  | highlight query texts target json => unchanged (runHighlight · query texts target json)
  | fields mapping json => unchanged (runFields · mapping json)
  | check => unchanged runCheck
  | config => unchanged fun s => { out := s.config.toToml }
  | create home force => runCreate place directory home force

end Command

end Searchlight
