import Bugs.Settings
import Bugs.Toml.Value

/-!
# Settings from a file

The settings of a project stand in one table of its settings file. A key that is missing
leaves its setting as it is. The first item with a wrong value is reported, in the order of
the table itself, tracking lines, restoring a sign and further colors.
-/

namespace Bugs

namespace Settings

/-- The truth value that a key of a section has to have, if it is there. -/
def readFlag (entries : Toml.Table) (item : SettingsItem) (fallback : Bool) :
    Except SettingsFault Bool :=
  match entries.find? item.key with
  | none => .ok fallback
  | some (.boolean value) => .ok value
  | some _ => .error (.wrongType item)

/-- A name in a list of names: a text that is not empty. -/
def nameOf? : Toml.Value → Option String
  | .text content => if content.isEmpty then none else some content
  | _ => none

/-- The names that a key of a section has to list, if it is there. -/
def readNames (entries : Toml.Table) (item : SettingsItem) (fallback : List String) :
    Except SettingsFault (List String) :=
  match entries.find? item.key with
  | none => .ok fallback
  | some (.array items) =>
    match items.mapM nameOf? with
    | some names => .ok names
    | none => .error (.wrongType item)
  | some _ => .error (.wrongType item)

/-- The settings with those of a document put over them. -/
def withDocument (settings : Settings) (document : Toml.Table) : Except SettingsFault Settings :=
  match document.find? SettingsItem.recognizer.key with
  | none => .ok settings
  | some (.table entries) => do
    let trackLines ← readFlag entries .trackLines settings.trackLines
    let restoreSign ← readFlag entries .restoreSign settings.restoreSign
    let extraColors ← readNames entries .extraColors settings.extraColors
    .ok ⟨trackLines, restoreSign, extraColors⟩
  | some _ => .error (.wrongType .recognizer)

end Settings

end Bugs
