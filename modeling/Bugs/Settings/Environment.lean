import Bugs.Settings
import Bugs.Text.Lines
import Bugs.Text.Space

/-!
# Settings from the environment

Three variables replace one setting each. The two flags take one of eight words in any case
and with white space around it; the colors are a list of names between commas.
-/

namespace Bugs

/-- The values of the three variables that replace settings. -/
structure Environment where
  trackLines : Option String
  restoreSign : Option String
  extraColors : Option String
deriving Repr, DecidableEq

namespace Environment

/-- The name of the variable for tracking lines. -/
def trackLinesName : String := "BUGS_TRACK_LINES"

/-- The name of the variable for restoring a sign. -/
def restoreSignName : String := "BUGS_RESTORE_SIGN"

/-- The name of the variable for further colors. -/
def extraColorsName : String := "BUGS_EXTRA_COLORS"

/-- Reads the environment from its variables by name. -/
def ofVariables (value? : String → Option String) : Environment :=
  ⟨value? trackLinesName, value? restoreSignName, value? extraColorsName⟩

/-- A variable that is empty counts as one that is not there. -/
def given? (content : Option String) : Option String :=
  content.filter (!·.isEmpty)

/-- Whether any variable is given. -/
def isUsed (environment : Environment) : Bool :=
  (given? environment.trackLines).isSome || (given? environment.restoreSign).isSome ||
    (given? environment.extraColors).isSome

/-- The truth value that a word stands for. -/
def flag? (value : String) : Option Bool :=
  let word := Text.lower (Text.trim value)
  if word ∈ ["1", "true", "yes", "on"] then some true
  else if word ∈ ["0", "false", "no", "off"] then some false
  else none

/-- Reads a flag; without one the fallback stays. -/
def readFlag (name : String) (content : Option String) (fallback : Bool) :
    Except SettingsFault Bool :=
  match given? content with
  | none => .ok fallback
  | some value =>
    match flag? value with
    | some flag => .ok flag
    | none => .error (.notAFlag name value)

/-- The names between commas, without the white space around them. -/
def namesOf (value : String) : List String :=
  (Text.splitAt ',' value.toList).map (Text.trim <| String.ofList ·) |>.filter (!·.isEmpty)

/-- Puts the environment over settings, variable by variable. The first variable that
cannot be used ends this, and the settings reached so far come with its fault. -/
def override (environment : Environment) (settings : Settings) :
    Settings × Option SettingsFault :=
  match readFlag trackLinesName environment.trackLines settings.trackLines with
  | .error fault => (settings, some fault)
  | .ok trackLines =>
    let settings := { settings with trackLines }
    match readFlag restoreSignName environment.restoreSign settings.restoreSign with
    | .error fault => (settings, some fault)
    | .ok restoreSign =>
      let settings := { settings with restoreSign }
      match given? environment.extraColors with
      | none => (settings, none)
      | some value => ({ settings with extraColors := namesOf value }, none)

end Environment

end Bugs
