import Bugs.Settings
import Bugs.Text.Utf8

/-!
# The arguments of the command line

The arguments ask for a verdict on a program, for its tokens, for help or for the version.
Whatever keeps a command from its verdict or listing is a fault with an explanation.
-/

namespace Bugs.CommandLine

/-- A call of `check`. -/
structure CheckCall where
  path : String
  json : Bool
  trace : Bool
  trackLines : Bool
  restoreSign : Bool
deriving Repr, DecidableEq

/-- A call of `tokens`. -/
structure TokensCall where
  path : String
  json : Bool
deriving Repr, DecidableEq

/-- What the arguments ask for. -/
inductive Command where
  /-- Shows how the commands are called, because nothing was asked for. -/
  | nothing
  | help
  | version
  | check (call : CheckCall)
  | tokens (call : TokensCall)
deriving Repr, DecidableEq

/-- Why a command cannot give a verdict or a listing. -/
inductive CommandFault where
  | unknownCommand (name : String)
  | unknownFlag (flag : String)
  /-- `check` takes exactly one path. -/
  | checkPaths
  /-- `tokens` takes exactly one path. -/
  | tokensPaths
  | noProgram (path : String)
  | notUtf8 (path : String) (fault : Utf8.Fault)
  | settings (fault : SettingsFault)
deriving Repr, DecidableEq

/-- The explanation of a fault. -/
def CommandFault.guidance : CommandFault → Guidance
  | unknownCommand name =>
    { what := "Unknown command '" ++ name ++ "'."
      why := some "Supported commands are check and tokens."
      fix := some "Use one of the supported commands."
      sample := some "bugs check walker.bugs" }
  | unknownFlag flag =>
    { what := "Unknown flag '" ++ flag ++ "'."
      why := some "check supports --json, --trace, --track-lines and --restore-sign."
      fix := some "Remove the flag or check the help output."
      sample := some "bugs check walker.bugs --json" }
  | checkPaths =>
    { what := "check needs exactly one source file."
      why := some "Each run recognizes a single Bugs program."
      fix := some "Pass the path of the program to check."
      sample := some "bugs check walker.bugs" }
  | tokensPaths =>
    { what := "tokens needs exactly one source file."
      why := some "The token listing is produced for a single program."
      fix := some "Pass the path of the program to tokenize."
      sample := some "bugs tokens walker.bugs --json" }
  | noProgram path =>
    { what := "Source file '" ++ path ++ "' was not found."
      why := some "The command needs an existing Bugs program file."
      fix := some "Check the path and try again."
      sample := some "bugs check walker.bugs" }
  | notUtf8 path fault =>
    { what := "Source file '" ++ path ++ "' is not valid UTF-8."
      why := some fault.message
      fix := some "Save the file as UTF-8 text."
      sample := none }
  | settings fault => fault.guidance

/-- The flags of `check`. -/
def checkFlags : List String :=
  ["--json", "--trace", "--track-lines", "--restore-sign"]

/-- An argument that has the form of a flag. -/
def isFlagShaped (argument : String) : Bool :=
  ['-', '-'].isPrefixOf argument.toList

/-- Reads the arguments of `check`. Flags and the path may stand in any order, and a flag
may be repeated. -/
def readCheck (arguments : List String) : Except CommandFault CheckCall :=
  let others := arguments.filter fun argument ↦ !checkFlags.contains argument
  match others.find? isFlagShaped with
  | some flag => .error (.unknownFlag flag)
  | none =>
    match others with
    | [path] =>
      .ok
        { path
          json := arguments.contains "--json"
          trace := arguments.contains "--trace"
          trackLines := arguments.contains "--track-lines"
          restoreSign := arguments.contains "--restore-sign" }
    | _ => .error .checkPaths

/-- Reads the arguments of `tokens`. -/
def readTokens (arguments : List String) : Except CommandFault TokensCall :=
  match arguments.filter (· ≠ "--json") with
  | [path] =>
    if isFlagShaped path then .error .tokensPaths
    else .ok { path, json := arguments.contains "--json" }
  | _ => .error .tokensPaths

/-- Reads the arguments. -/
def readArguments : List String → Except CommandFault Command
  | [] => .ok .nothing
  | name :: arguments =>
    if name = "--version" then .ok .version
    else if name ∈ ["help", "--help", "-h"] then .ok .help
    else if name = "check" then .check <$> readCheck arguments
    else if name = "tokens" then .tokens <$> readTokens arguments
    else .error (.unknownCommand name)

/-- The path of the program that a command reads. -/
def Command.path? : Command → Option String
  | check call => some call.path
  | tokens call => some call.path
  | _ => none

end Bugs.CommandLine
