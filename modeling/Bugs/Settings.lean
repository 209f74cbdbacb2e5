import Bugs.Lexicon
import Bugs.Report
import Bugs.Tape

/-!
# Settings of a project

Three settings say how a program is recognized: whether lines are tracked, whether a sign
is restored, and which words name further colors. A settings file or the environment may
get them wrong; each way of doing so is a fault with an explanation of its own.
-/

namespace Bugs

/-- How the programs of a project are recognized. -/
structure Settings where
  trackLines : Bool
  restoreSign : Bool
  extraColors : List String
deriving Repr, DecidableEq

namespace Settings

/-- The settings of a project that sets nothing. -/
def standard : Settings :=
  ⟨false, false, []⟩

/-- The options of a recognition. -/
def options (settings : Settings) : Options :=
  ⟨settings.trackLines, settings.restoreSign⟩

/-- The words of the language with the colors that the project adds. -/
def lexicon (settings : Settings) : Lexicon :=
  Lexicon.standard.withColors settings.extraColors

/-- The name of the settings file. -/
def fileName : String :=
  "bugs.toml"

end Settings

/-- The items that a settings file may get wrong. -/
inductive SettingsItem where
  | recognizer
  | trackLines
  | restoreSign
  | extraColors
deriving Repr, DecidableEq

/-- The key of an item. -/
def SettingsItem.key : SettingsItem → String
  | recognizer => "recognizer"
  | trackLines => "track_lines"
  | restoreSign => "restore_sign"
  | extraColors => "extra_colors"

/-- What the value of an item has to be. -/
def SettingsItem.expectation : SettingsItem → String
  | recognizer => "a table"
  | trackLines | restoreSign => "true or false"
  | extraColors => "a list of names"

/-- Why settings cannot be used. -/
inductive SettingsFault where
  /-- The file at this path is no TOML document. -/
  | malformed (path : String) (reason : String)
  /-- The value of an item has the wrong type. -/
  | wrongType (item : SettingsItem)
  /-- An environment variable holds no word for true or false. -/
  | notAFlag (name : String) (value : String)
deriving Repr, DecidableEq

namespace SettingsFault

/-- The explanation of a fault. -/
def guidance : SettingsFault → Guidance
  | malformed _ reason =>
    { what := Settings.fileName ++ " is not valid TOML."
      why := some ("TOML parsing failed: " ++ reason ++ ".")
      fix := some ("Fix the TOML syntax in " ++ Settings.fileName ++ ".")
      sample := some "[recognizer]\ntrack_lines = true" }
  | wrongType item =>
    { what := "Invalid value for '" ++ item.key ++ "' in " ++ Settings.fileName ++ "."
      why := some ("'" ++ item.key ++ "' must be " ++ item.expectation ++ ".")
      fix := some ("Update '" ++ item.key ++ "' under [recognizer].")
      sample := some "[recognizer]\nrestore_sign = false" }
  | notAFlag name value =>
    { what := name ++ " has an unsupported value '" ++ value ++ "'."
      why := some "Flags accept 1/0, true/false, yes/no or on/off."
      fix := some ("Set " ++ name ++ " to one of the supported values.")
      sample := some (name ++ "=1") }

/-- The path of the file that is to blame as a whole. -/
def file? : SettingsFault → Option String
  | malformed path _ => some path
  | _ => none

end SettingsFault

end Bugs
