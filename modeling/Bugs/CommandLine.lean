import Bugs.CommandLine.Arguments
import Bugs.FileTree
import Bugs.Json.Pretty
import Bugs.Recognizer
import Bugs.Settings.Resolution
import Bugs.Token.Listing

/-!
# The command line

The command `check` gives a verdict on one program and `tokens` lists its tokens. What a
command prints depends on its arguments, the program file, the settings file beside it and
the environment, and on nothing else. Whatever goes wrong before a verdict or a listing is
explained on the error channel alone, with two exceptions that stop the command without an
explanation: the system bars the way to the program, or the settings file beside it is there
and cannot be taken in.
-/

namespace Bugs.CommandLine

/-- The name and number that the version command prints. -/
def versionText : String :=
  "bugslang 0.1.0"

/-- How the commands are called. -/
def usageText : String :=
  "Usage:\n" ++
  "  bugs check <file.bugs> [--json] [--trace] [--track-lines] [--restore-sign]\n" ++
  "  bugs tokens <file.bugs> [--json]\n" ++
  "  bugs --version"

/-! ## Surroundings -/

/-- The files and variables around a command. -/
structure Workplace where
  /-- What the path of a program leads to. -/
  program : String → Option Node
  /-- The path of the settings file beside a program, and what it leads to. -/
  settings : String → String × Option Node
  environment : Environment
  /-- The words in which the reader of documents refuses a text. -/
  reason : List Char → String

/-- The workplace in a directory: the settings of a program stand beside it. -/
def Workplace.ofTree (tree : FileTree) (environment : Environment)
    (reason : List Char → String) : Workplace where
  program := tree.find?
  settings path :=
    match Settings.place? none (some path) with
    | none => (path, none)
    | some place => (String.intercalate "/" place, tree.walk [] place)
  environment := environment
  reason := reason

/-! ## Conclusions -/

/-- What a command comes to. -/
inductive Conclusion where
  /-- It prints a text and ends with success or without. -/
  | printed (success : Bool) (text : String)
  | refused (fault : CommandFault)
  | aborted (reason : Unreadable)

namespace Conclusion

/-- The exit code. -/
def exitCode : Conclusion → Nat
  | printed success _ => if success then 0 else 1
  | refused _ => 1
  | aborted _ => 1

/-- What goes to the output channel. -/
def output : Conclusion → String
  | printed _ text => text
  | _ => ""

/-- What goes to the error channel. -/
def errors : Conclusion → String
  | refused fault => fault.guidance.text ++ "\n"
  | _ => ""

end Conclusion

/-! ## Running a command -/

/-- The text of the program that a path leads to, or what a command comes to without it. -/
def readProgram (workplace : Workplace) (path : String) : Except Conclusion String :=
  match workplace.program path with
  | some (.file bytes) =>
    match Utf8.decode bytes with
    | .ok text => .ok (String.ofList (Text.unifyBreaks text))
    | .error fault => .error (.refused (.notUtf8 path fault))
  | some (.barred fault) => .error (.aborted (.barred fault))
  | _ => .error (.refused (.noProgram path))

/-- Continues with the text of a program and the settings of its project. -/
def withProgram (workplace : Workplace) (path : String)
    (proceed : String → Settings → Conclusion) : Conclusion :=
  match readProgram workplace path with
  | .error conclusion => conclusion
  | .ok source =>
    let file := workplace.settings path
    match Settings.resolve workplace.reason file.1 file.2 workplace.environment with
    | .settled settings _ => proceed source settings
    | .refused fault => .refused (.settings fault)
    | .unreadable reason => .aborted reason

/-- The verdict as a record, with the path of the program and, if asked for, the trace. -/
def verdictJson (path : String) (ending : Ending) (log : Option TraceLog) : Json :=
  .object (ending.fields ++ [("file", .string (Path.shown path))] ++
    (log.map fun log ↦ ("trace", log.toJson)).toList)

/-- The verdict as text, behind the events of the trace. -/
def verdictText (source : String) (ending : Ending) (log : Option TraceLog) : String :=
  let events :=
    match log with
    | none => ""
    | some log => if log.count none = 0 then "" else log.text ++ "\n"
  events ++
    match ending with
    | .matched => "Syntax: OK\n"
    | .failed diagnostic => "Syntax: FAIL\n" ++ diagnostic.report.excerpt source ++ "\n"
    | _ => "Syntax: FAIL\nNo Bug definition found.\n"

/-- The options of a check: those of the project, with what the flags turn on. -/
def CheckCall.options (call : CheckCall) (settings : Settings) : Options :=
  ⟨settings.trackLines || call.trackLines, settings.restoreSign || call.restoreSign⟩

/-- What a check of a program text comes to. -/
def CheckCall.conclude (call : CheckCall) (source : String) (settings : Settings) : Conclusion :=
  let log := if call.trace then some (TraceLog.empty .debug) else none
  let result := checkSource settings.lexicon (call.options settings) log source
  let text :=
    if call.json then (verdictJson call.path result.1 result.2.log).pretty ++ "\n"
    else verdictText source result.1 result.2.log
  .printed (result.1 = .matched) text

/-- What listing the tokens of a program text comes to. -/
def TokensCall.conclude (call : TokensCall) (source : String) (settings : Settings) : Conclusion :=
  let tokens := tokenize settings.lexicon source
  .printed true <|
    if call.json then (Json.array (tokens.map Token.toJson)).pretty ++ "\n"
    else Token.listing tokens

/-- Gives a verdict on a program. -/
def runCheck (workplace : Workplace) (call : CheckCall) : Conclusion :=
  withProgram workplace call.path call.conclude

/-- Lists the tokens of a program. -/
def runTokens (workplace : Workplace) (call : TokensCall) : Conclusion :=
  withProgram workplace call.path call.conclude

/-- Runs the command that the arguments ask for. -/
def run (workplace : Workplace) (arguments : List String) : Conclusion :=
  match readArguments arguments with
  | .error fault => .refused fault
  | .ok .nothing => .printed false (usageText ++ "\n")
  | .ok .help => .printed true (usageText ++ "\n")
  | .ok .version => .printed true (versionText ++ "\n")
  | .ok (.check call) => runCheck workplace call
  | .ok (.tokens call) => runTokens workplace call

end Bugs.CommandLine
