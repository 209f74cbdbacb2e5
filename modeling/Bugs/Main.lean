import Bugs.CommandLine

/-!
# The program

The program collects what a command may read (its program file, the settings file beside
it and three environment variables), runs the command on that, and prints what it
comes to.
-/

namespace Bugs

/-- What an error says about a path: that it leads nowhere, or that the system bars the way. -/
def Node.ofError? : IO.Error → Option Node
  | .noFileOrDirectory .. => none
  | .inappropriateType .. => none
  | .permissionDenied .. => some (.barred .denied)
  | .invalidArgument _ code details =>
    -- a loop of links leads nowhere
    if code = 40 then none
    else some (.barred (if code = 36 then .nameTooLong else .other details))
  | error => some (.barred (.other error.toString))

/-- What a path leads to on this machine. -/
def nodeAt (path : String) : IO (Option Node) := do
  try
    let place ← IO.FS.realPath path
    if ← place.isDir then return some .directory
    let bytes ← IO.FS.readBinFile place
    return some (.file bytes.toList)
  catch error => return Node.ofError? error

/-- The path of the settings file in the directory that really holds a program. -/
def settingsPath (path : String) : IO String := do
  let real := (← IO.FS.realPath path).toString
  return "/" ++ String.intercalate "/" ((Path.parts real).dropLast ++ [Settings.fileName])

/-- The files and variables around a command on this machine. -/
def workplaceFor (arguments : List String) : IO CommandLine.Workplace := do
  let trackLines ← IO.getEnv Environment.trackLinesName
  let restoreSign ← IO.getEnv Environment.restoreSignName
  let extraColors ← IO.getEnv Environment.extraColorsName
  let values : Environment := ⟨trackLines, restoreSign, extraColors⟩
  let reason (_ : List Char) : String := "the text is no document"
  match (CommandLine.readArguments arguments).toOption.bind (·.path?) with
  | none => return ⟨fun _ ↦ none, fun path ↦ (path, none), values, reason⟩
  | some path =>
    match ← nodeAt path with
    | some (.file bytes) =>
      let beside ← settingsPath path
      let node ← nodeAt beside
      return ⟨fun _ ↦ some (.file bytes), fun _ ↦ (beside, node), values, reason⟩
    | node => return ⟨fun _ ↦ node, fun path ↦ (path, none), values, reason⟩

end Bugs

/-- Runs the command that the arguments ask for. -/
def main (arguments : List String) : IO UInt32 := do
  let conclusion := Bugs.CommandLine.run (← Bugs.workplaceFor arguments) arguments
  IO.print conclusion.output
  IO.eprint conclusion.errors
  return conclusion.exitCode.toUInt32
