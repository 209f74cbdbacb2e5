import Bugs.FileTree
import Bugs.Settings.Environment
import Bugs.Settings.File
import Bugs.Text.Utf8
import Bugs.Toml.Document

/-!
# Looking settings up

The settings of a project are the defaults with those of the settings file put over them,
and those of the environment put over both. The three are merged independently of each
other. The first offending item is reported: the file comes before the environment. A text
that is no document is refused for a reason that the reader of documents gives; the words of
this reason are a parameter here.
-/

namespace Bugs

/-- Where settings came from. -/
inductive SettingsSource where
  /-- The settings file at a path. -/
  | file (path : String)
  | environment
deriving Repr, DecidableEq

/-- Why a file could not be taken in at all, though it is there or the system bars the way to
it. -/
inductive Unreadable where
  | directory
  | notUtf8 (fault : Utf8.Fault)
  /-- A whole number of a document has more digits than are read. -/
  | oversized
  | barred (fault : SystemFault)
deriving Repr, DecidableEq

/-- What looking settings up ends in. -/
inductive Resolution where
  | settled (settings : Settings) (sources : List SettingsSource)
  | refused (fault : SettingsFault)
  | unreadable (reason : Unreadable)

namespace Settings

/-- Where the settings file of a project stands: in the root of the project, where one is
given, and otherwise in the directory in which the path of the program ends, by the names
alone. -/
def place? (root program : Option String) : Option (List String) :=
  let directory? :=
    match root with
    | some root => Path.place? root
    | none => (program.bind Path.place?).bind Path.directory?
  directory?.map (· ++ [fileName])

/-- The settings with those of a document and of the environment put over them, in this
order. -/
def merge (document : Option Toml.Table) (environment : Environment) :
    Except SettingsFault Settings := do
  let settings ← match document with
    | none => .ok standard
    | some table => standard.withDocument table
  match environment.override settings with
  | (settings, none) => .ok settings
  | (_, some fault) => .error fault

/-- The sources that settings are merged from: the path of the file, if there is one, and
the environment, if a variable is given. -/
def sources (path : Option String) (environment : Environment) : List SettingsSource :=
  (path.map SettingsSource.file).toList ++
    if environment.isUsed then [.environment] else []

/-- Merges the settings of a document at a path, or of none, with the environment. -/
def settle (document : Option (String × Toml.Table)) (environment : Environment) : Resolution :=
  match merge (document.map (·.2)) environment with
  | .ok settings => .settled settings (sources (document.map (·.1)) environment)
  | .error fault => .refused fault

/-- Looks settings up: in the file at a path, where something is there, and in the
environment. A text that is no document is refused for the given reason. -/
def resolve (reason : List Char → String) (path : String) (node : Option Node)
    (environment : Environment) : Resolution :=
  match node with
  | none => settle none environment
  | some .directory => .unreadable .directory
  | some (.barred fault) => .unreadable (.barred fault)
  | some (.file bytes) =>
    match Utf8.decode bytes with
    | .error fault => .unreadable (.notUtf8 fault)
    | .ok text =>
      let text := Text.unifyBreaks text
      match Toml.parse text with
      | .error fault =>
        if fault = .oversized then .unreadable .oversized
        else .refused (.malformed path (reason text))
      | .ok table => settle (some (path, table)) environment

end Settings

end Bugs
