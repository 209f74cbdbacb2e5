import Bugs.Proofs.CommandLine.Invocation
import Bugs.Proofs.LineBreakForms
import Bugs.Proofs.Settings.Faults

/-!
# How commands fail

Before a command gives a verdict or lists tokens, the arguments may be wrong, the program may be
missing or no text, and the settings around it may be at fault. The command then explains one of the
faults that apply on the error channel, prints nothing else and fails. If none applies, nothing goes
to the error channel. Two hindrances are never explained: the system bars the way to the program, or
the program is read and the settings file beside it cannot be taken in.

## Main definitions

* `Asks`: arguments ask for the verdict on a program or for its tokens.
* `Misuse`: what is wrong with arguments.
* `Workplace.Hinders`: what keeps a command from reading a program and its settings.
* `CommandFault.Applies`: a fault of arguments or of what they ask for.
* `CommandFault.explanation`: the explanation of a fault, line by line.
* `Workplace.Strands`: what stops a command without an explanation.

## Main results

* `withProgram_cases`, `run_cases`.
* `failures_explained`.
-/

namespace Bugs.CommandLine

/-! ### Arguments -/

/-- Arguments ask for the verdict on the program at a path, or for its tokens. -/
inductive Asks : List String → String → Prop
  | check {name path : String} {arguments : List String} (hname : name = "check")
    (h : Invokes checkFlags arguments path) : Asks (name :: arguments) path
  | tokens {name path : String} {arguments : List String} (hname : name = "tokens")
    (h : Invokes ["--json"] arguments path) : Asks (name :: arguments) path

/-- The words that may stand first. -/
def commandNames : List String :=
  ["--version", "help", "--help", "-h", "check", "tokens"]

/-- What is wrong with arguments. -/
inductive Misuse : List String → CommandFault → Prop
  | unknownCommand {name : String} {arguments : List String} (hname : name ∉ commandNames) :
    Misuse (name :: arguments) (.unknownCommand name)
  | unknownFlag {name flag : String} {arguments : List String} (hname : name = "check")
    (hmem : flag ∈ arguments) (hshape : isFlagShaped flag = true) (hunknown : flag ∉ checkFlags) :
    Misuse (name :: arguments) (.unknownFlag flag)
  | checkPaths {name : String} {arguments : List String} (hname : name = "check")
    (hpaths : (paths arguments).length ≠ 1) : Misuse (name :: arguments) .checkPaths
  | tokensPaths {name : String} {arguments : List String} (hname : name = "tokens")
    (hpaths : ∀ path, ¬ Invokes ["--json"] arguments path) : Misuse (name :: arguments) .tokensPaths

namespace Asks

variable {arguments : List String} {path path' : String}

theorem path_eq (h : Asks arguments path) (h' : Asks arguments path') : path' = path := by
  cases h with
  | check hname h => cases h' with
    | check _ h' => simpa [h'.paths_eq] using h.paths_eq
    | tokens hname' => simp [hname] at hname'
  | tokens hname h => cases h' with
    | check hname' => simp [hname] at hname'
    | tokens _ h' => simpa [h'.paths_eq] using h.paths_eq

theorem not_misuse (h : Asks arguments path) (fault : CommandFault) : ¬ Misuse arguments fault := by
  intro hmisuse
  cases h with
  | check hname h =>
    subst hname
    cases hmisuse with
    | unknownCommand hname => simp [commandNames] at hname
    | unknownFlag _ hmem hshape hunknown => exact hunknown (h.known_of_mem _ hmem hshape)
    | checkPaths _ hpaths => simp [h.paths_eq] at hpaths
    | tokensPaths hname => simp at hname
  | tokens hname h =>
    subst hname
    cases hmisuse with
    | unknownCommand hname => simp [commandNames] at hname
    | unknownFlag hname | checkPaths hname => simp at hname
    | tokensPaths _ hpaths => exact hpaths _ h

/-- What is asked for goes on with the program and the settings around it, and then it prints. -/
theorem exists_proceed (h : Asks arguments path) :
    ∃ proceed : String → Settings → Conclusion,
      (∀ workplace, run workplace arguments = withProgram workplace path proceed) ∧
        ∀ source settings, ∃ success text, proceed source settings = .printed success text := by
  cases h with
  | check hname h =>
    subst hname
    exact ⟨_, fun workplace ↦ run_check_of_invokes workplace h, fun _ _ ↦ ⟨_, _, rfl⟩⟩
  | tokens hname h =>
    subst hname
    exact ⟨_, fun workplace ↦ run_tokens_of_invokes workplace h, fun _ _ ↦ ⟨_, _, rfl⟩⟩

end Asks

/-- The command `check` gets one path and flags that it knows, or it is refused. -/
theorem asks_or_refused_of_check (arguments : List String) :
    (∃ path, Asks ("check" :: arguments) path) ∨
      ∃ fault, Misuse ("check" :: arguments) fault ∧
        ∀ workplace, run workplace ("check" :: arguments) = .refused fault := by
  have hrefused {fault : CommandFault} (hread : readCheck arguments = .error fault)
      (workplace : Workplace) : run workplace ("check" :: arguments) = .refused fault := by
    simp only [run, readArguments, hread]
    rfl
  obtain ⟨path, h⟩ | ⟨flag, hmem, hshape, hunknown, hread⟩ | ⟨hpaths, hread⟩ :=
    readCheck_cases arguments
  · exact .inl ⟨path, .check rfl h⟩
  · exact .inr ⟨_, .unknownFlag rfl hmem hshape hunknown, hrefused hread⟩
  · exact .inr ⟨_, .checkPaths rfl hpaths, hrefused hread⟩

/-- The command `tokens` gets one path and the flag that it knows, or it is refused. -/
theorem asks_or_refused_of_tokens (arguments : List String) :
    (∃ path, Asks ("tokens" :: arguments) path) ∨
      ∃ fault, Misuse ("tokens" :: arguments) fault ∧
        ∀ workplace, run workplace ("tokens" :: arguments) = .refused fault := by
  by_cases h : ∃ path, Invokes ["--json"] arguments path
  · obtain ⟨path, h⟩ := h
    exact .inl ⟨path, .tokens rfl h⟩
  · have hpaths : ∀ path, ¬ Invokes ["--json"] arguments path := not_exists.mp h
    refine .inr ⟨_, .tokensPaths rfl hpaths, fun workplace ↦ ?_⟩
    simp only [run, readArguments, readTokens_of_not_invokes hpaths]
    rfl

/-- Any other first word asks for a text that is always the same, or it is refused. -/
theorem printed_or_refused {name : String} (hcheck : name ≠ "check") (htokens : name ≠ "tokens")
    (arguments : List String) :
    (∃ text, ∀ workplace, run workplace (name :: arguments) = .printed true text) ∧
        name ∈ commandNames ∨
      (∀ workplace, run workplace (name :: arguments) = .refused (.unknownCommand name)) ∧
        name ∉ commandNames := by
  have hmem : name ∈ commandNames ↔ name = "--version" ∨ name ∈ ["help", "--help", "-h"] := by
    simp [commandNames, hcheck, htokens]
  rw [hmem]
  by_cases hversion : name = "--version"
  · refine .inl ⟨⟨versionText ++ "\n", fun workplace ↦ ?_⟩, .inl hversion⟩
    simp only [run, readArguments, if_pos hversion]
  by_cases hhelp : name ∈ ["help", "--help", "-h"]
  · refine .inl ⟨⟨usageText ++ "\n", fun workplace ↦ ?_⟩, .inr hhelp⟩
    simp only [run, readArguments, if_neg hversion, if_pos hhelp]
  · refine .inr ⟨fun workplace ↦ ?_, by simp only [hversion, hhelp, or_self, not_false_iff]⟩
    simp only [run, readArguments, if_neg hversion, if_neg hhelp, if_neg hcheck, if_neg htokens]

/-- Arguments ask for something about a program, or they are refused because they are wrong, or they
are neither and ask for a text that is always the same. -/
theorem arguments_cases (arguments : List String) :
    (∃ path, Asks arguments path) ∨
      (∃ fault, Misuse arguments fault ∧
        ∀ workplace, run workplace arguments = .refused fault) ∨
      ((∀ path, ¬ Asks arguments path) ∧ ∀ fault, ¬ Misuse arguments fault) ∧
        ∃ success text, ∀ workplace, run workplace arguments = .printed success text := by
  cases arguments with
  | nil =>
    refine .inr (.inr ⟨⟨fun path hasks ↦ ?_, fun fault hmisuse ↦ ?_⟩, false, usageText ++ "\n",
      fun workplace ↦ rfl⟩)
    · cases hasks
    · cases hmisuse
  | cons name arguments =>
    by_cases hcheck : name = "check"
    · subst hcheck
      exact (asks_or_refused_of_check arguments).imp_right .inl
    by_cases htokens : name = "tokens"
    · subst htokens
      exact (asks_or_refused_of_tokens arguments).imp_right .inl
    obtain ⟨⟨text, hprinted⟩, hname⟩ | ⟨hrefused, hname⟩ :=
      printed_or_refused hcheck htokens arguments
    · refine .inr (.inr ⟨⟨fun path hasks ↦ ?_, fun fault hmisuse ↦ ?_⟩, true, text, hprinted⟩)
      · cases hasks with
        | check hname => exact hcheck hname
        | tokens hname => exact htokens hname
      · cases hmisuse with
        | unknownCommand hunknown => exact hunknown hname
        | unknownFlag hname | checkPaths hname => exact hcheck hname
        | tokensPaths hname => exact htokens hname
    · exact .inr (.inl ⟨_, .unknownCommand hname, hrefused⟩)

/-! ### Programs -/

/-- What keeps a command from the program at a path or from its settings. -/
inductive Workplace.Hinders (workplace : Workplace) (path : String) : CommandFault → Prop
  | noProgram (h : workplace.program path = none ∨ workplace.program path = some .directory) :
    Hinders workplace path (.noProgram path)
  | notUtf8 {bytes : List UInt8} {fault : Utf8.Fault}
    (hfile : workplace.program path = some (.file bytes))
    (htext : Utf8.decode bytes = .error fault) : Hinders workplace path (.notUtf8 path fault)
  | settings {fault : SettingsFault}
    (h : fault.Applies workplace.reason (workplace.settings path).1 (workplace.settings path).2
      workplace.environment) : Hinders workplace path (.settings fault)

/-- The system bars the way to the program at a path, or the program is a text, but the settings
file beside it cannot be taken in. -/
inductive Workplace.Strands (workplace : Workplace) (path : String) : Unreadable → Prop
  | program {fault : SystemFault} (h : workplace.program path = some (.barred fault)) :
    Strands workplace path (.barred fault)
  | settings {bytes : List UInt8} {source : List Char} {node : Node} {cause : Unreadable}
    (hfile : workplace.program path = some (.file bytes)) (htext : Utf8.decode bytes = .ok source)
    (hnode : (workplace.settings path).2 = some node) (h : Settings.Illegible node cause) :
    Strands workplace path cause

theorem Workplace.Strands.withProgram {workplace : Workplace} {path : String} {cause : Unreadable}
    (h : workplace.Strands path cause) (proceed : String → Settings → Conclusion) :
    CommandLine.withProgram workplace path proceed = .aborted cause := by
  cases h with
  | program h => simp only [CommandLine.withProgram, readProgram, h]
  | settings hfile htext hnode h =>
    simp only [CommandLine.withProgram, readProgram, hfile, htext, hnode,
      Settings.resolve_of_illegible h]

/-- The way to a program is barred, or the program is refused for something that hinders its
reading, or it is a text. -/
theorem readProgram_cases (workplace : Workplace) (path : String) :
    (∃ fault, workplace.program path = some (.barred fault)) ∨
      (∃ fault, workplace.Hinders path fault ∧
        readProgram workplace path = .error (.refused fault)) ∨
      ∃ bytes source, workplace.program path = some (.file bytes) ∧
        Utf8.decode bytes = .ok source ∧
        readProgram workplace path = .ok (String.ofList (Text.unifyBreaks source)) := by
  cases hprogram : workplace.program path with
  | none => exact .inr (.inl ⟨_, .noProgram (.inl hprogram), by simp only [readProgram, hprogram]⟩)
  | some node =>
    cases node with
    | barred fault => exact .inl ⟨fault, rfl⟩
    | directory =>
      exact .inr (.inl ⟨_, .noProgram (.inr hprogram), by simp only [readProgram, hprogram]⟩)
    | file bytes =>
      cases htext : Utf8.decode bytes with
      | error fault =>
        exact .inr (.inl ⟨_, .notUtf8 hprogram htext, by simp only [readProgram, hprogram, htext]⟩)
      | ok source =>
        exact .inr (.inr ⟨bytes, source, rfl, htext, by simp only [readProgram, hprogram, htext]⟩)

/-- A command is stranded, or it is refused for something that hinders it, or nothing hinders it and
it goes on. -/
theorem withProgram_cases (workplace : Workplace) (path : String)
    (proceed : String → Settings → Conclusion) :
    (∃ cause, workplace.Strands path cause) ∨
      (∃ fault, workplace.Hinders path fault ∧
        withProgram workplace path proceed = .refused fault) ∨
      (∀ fault, ¬ workplace.Hinders path fault) ∧
        ∃ source settings, withProgram workplace path proceed = proceed source settings := by
  obtain ⟨fault, hbarred⟩ | ⟨fault, hhinders, hread⟩ | ⟨bytes, source, hfile, htext, hread⟩ :=
    readProgram_cases workplace path
  · exact .inl ⟨_, .program hbarred⟩
  · exact .inr (.inl ⟨fault, hhinders, by simp only [withProgram, hread]⟩)
  simp only [withProgram, hread]
  obtain ⟨node, cause, hnode, hillegible⟩ | ⟨fault, hfault, hrefused⟩ |
    ⟨hsound, settings, sources, hsettled⟩ := Settings.resolve_cases workplace.reason
      (workplace.settings path).1 (workplace.settings path).2 workplace.environment
  · exact .inl ⟨cause, .settings hfile htext hnode hillegible⟩
  · exact .inr (.inl ⟨_, .settings hfault, by rw [hrefused]⟩)
  · refine .inr (.inr ⟨fun fault hhinders ↦ ?_, _, settings, by rw [hsettled]⟩)
    cases hhinders with
    | noProgram hmissing => simp [hfile] at hmissing
    | notUtf8 hfile' htext' =>
      cases hfile.symm.trans hfile'
      cases htext.symm.trans htext'
    | settings hfault => exact hsound _ hfault

/-! ### Explanations -/

theorem message_ne_empty (fault : Utf8.Fault) : fault.message ≠ "" := by
  intro h
  cases fault <;>
  · have hend := (String.append_eq_empty_iff.mp h).2
    simp [toString] at hend

namespace CommandFault

/-- The lines of the explanation of a fault. -/
def explanation : CommandFault → List String
  | unknownCommand name =>
    ["What happened: Unknown command '" ++ name ++ "'.",
      "Why: Supported commands are check and tokens.",
      "Fix: Use one of the supported commands.",
      "Example: bugs check walker.bugs"]
  | unknownFlag flag =>
    ["What happened: Unknown flag '" ++ flag ++ "'.",
      "Why: check supports --json, --trace, --track-lines and --restore-sign.",
      "Fix: Remove the flag or check the help output.",
      "Example: bugs check walker.bugs --json"]
  | checkPaths =>
    ["What happened: check needs exactly one source file.",
      "Why: Each run recognizes a single Bugs program.",
      "Fix: Pass the path of the program to check.",
      "Example: bugs check walker.bugs"]
  | tokensPaths =>
    ["What happened: tokens needs exactly one source file.",
      "Why: The token listing is produced for a single program.",
      "Fix: Pass the path of the program to tokenize.",
      "Example: bugs tokens walker.bugs --json"]
  | noProgram path =>
    ["What happened: Source file '" ++ path ++ "' was not found.",
      "Why: The command needs an existing Bugs program file.",
      "Fix: Check the path and try again.",
      "Example: bugs check walker.bugs"]
  | notUtf8 path fault =>
    ["What happened: Source file '" ++ path ++ "' is not valid UTF-8.",
      "Why: " ++ fault.message,
      "Fix: Save the file as UTF-8 text."]
  | settings fault => fault.explanation

theorem lines_guidance (fault : CommandFault) : fault.guidance.lines = fault.explanation := by
  cases fault with
  | settings fault => exact fault.lines_guidance
  | notUtf8 path fault =>
    refine (Guidance.lines_eq _ (message_ne_empty fault) (by simp) none).trans ?_
    simp only [← String.append_assoc, String.reduceAppend]
    rfl
  | unknownCommand name | unknownFlag name | noProgram name | checkPaths | tokensPaths =>
    refine (Guidance.lines_eq _ (by simp) (by simp) _).trans ?_
    rw [Guidance.part_some _ (by simp)]
    simp only [← String.append_assoc, String.reduceAppend]
    rfl

theorem errors_refused (fault : CommandFault) :
    (Conclusion.refused fault).errors = String.intercalate "\n" fault.explanation ++ "\n" := by
  rw [Conclusion.errors, Guidance.text, fault.lines_guidance]

end CommandFault

/-! ### Commands -/

/-- A fault of arguments, or of the program that they ask something about. -/
inductive CommandFault.Applies (workplace : Workplace) (arguments : List String)
    (fault : CommandFault) : Prop
  | misuse (h : Misuse arguments fault)
  | hinders {path : String} (hasks : Asks arguments path) (h : workplace.Hinders path fault)

/-- Arguments ask for something about a program, and the command is stopped on its way there. -/
def Stranded (workplace : Workplace) (arguments : List String) (cause : Unreadable) : Prop :=
  ∃ path, Asks arguments path ∧ workplace.Strands path cause

variable {workplace : Workplace} {arguments : List String}

/-- A command is stranded and aborted, or it is refused for a fault that applies, or no fault
applies and it prints something. -/
theorem run_cases (workplace : Workplace) (arguments : List String) :
    (∃ cause, Stranded workplace arguments cause ∧
        run workplace arguments = .aborted cause) ∨
      (∃ fault, fault.Applies workplace arguments ∧
        run workplace arguments = .refused fault) ∨
      (∀ fault : CommandFault, ¬ fault.Applies workplace arguments) ∧
        ∃ success text, run workplace arguments = .printed success text := by
  obtain ⟨path, hasks⟩ | ⟨fault, hmisuse, hrefused⟩ | ⟨⟨hplain, hsound⟩, success, text, hprinted⟩ :=
    arguments_cases arguments
  · -- behind the program and its settings a command only prints, so all faults show up to there
    obtain ⟨proceed, hrun, hprints⟩ := hasks.exists_proceed
    rw [hrun]
    obtain ⟨cause, hstrands⟩ | ⟨fault, hhinders, hrefused⟩ | ⟨hfree, source, settings, hproceed⟩ :=
      withProgram_cases workplace path proceed
    · exact .inl ⟨cause, ⟨path, hasks, hstrands⟩, hstrands.withProgram proceed⟩
    · exact .inr (.inl ⟨fault, .hinders hasks hhinders, hrefused⟩)
    · refine .inr (.inr ⟨fun fault hfault ↦ ?_, hproceed ▸ hprints source settings⟩)
      cases hfault with
      | misuse h => exact hasks.not_misuse fault h
      | hinders hasks' h => exact hfree fault (hasks.path_eq hasks' ▸ h)
  · exact .inr (.inl ⟨fault, .misuse hmisuse, hrefused workplace⟩)
  · refine .inr (.inr ⟨fun fault hfault ↦ ?_, success, text, hprinted workplace⟩)
    cases hfault with
    | misuse h => exact hsound fault h
    | hinders hasks h => exact hplain _ hasks

theorem Stranded.run_eq {cause : Unreadable} (h : Stranded workplace arguments cause) :
    run workplace arguments = .aborted cause := by
  obtain ⟨path, hasks, hstrands⟩ := h
  obtain ⟨proceed, hrun, -⟩ := hasks.exists_proceed
  rw [hrun, hstrands.withProgram]

/-- A command is aborted exactly if it is stranded. Any other command ends with one of two exit
codes. If a fault applies, it fails, prints nothing, and the error channel gets the explanation of a
fault that applies. If none applies, nothing goes to the error channel. -/
theorem failures_explained (workplace : Workplace) (arguments : List String) :
    let conclusion := run workplace arguments
    (∀ cause, conclusion = .aborted cause ↔ Stranded workplace arguments cause) ∧
      ((∀ cause, ¬ Stranded workplace arguments cause) →
        (conclusion.exitCode = 0 ∨ conclusion.exitCode = 1) ∧
          ((∃ fault : CommandFault, fault.Applies workplace arguments) →
            conclusion.exitCode = 1 ∧ conclusion.output = "" ∧
              ∃ fault : CommandFault, fault.Applies workplace arguments ∧
                conclusion.errors = String.intercalate "\n" fault.explanation ++ "\n") ∧
          ((∀ fault : CommandFault, ¬ fault.Applies workplace arguments) →
            conclusion.errors = "")) := by
  intro conclusion
  have hcases := run_cases workplace arguments
  refine ⟨fun cause ↦ ⟨fun haborted ↦ ?_, Stranded.run_eq⟩, fun hfree ↦ ?_⟩
  · simp only [conclusion] at haborted
    rw [haborted] at hcases
    simp only [Conclusion.aborted.injEq, reduceCtorEq, and_false, exists_false, or_false] at hcases
    obtain ⟨_, hstranded, rfl⟩ := hcases
    exact hstranded
  · obtain ⟨cause, hstranded, -⟩ | ⟨fault, hfault, hrefused⟩ | ⟨hsound, success, text, hprinted⟩ :=
      hcases
    · exact absurd hstranded (hfree cause)
    · simp only [conclusion, hrefused]
      exact ⟨.inr rfl, fun _ ↦ ⟨rfl, rfl, fault, hfault, fault.errors_refused⟩,
        fun hnone ↦ absurd hfault (hnone fault)⟩
    · simp only [conclusion, hprinted]
      refine ⟨?_, fun hsome ↦ ?_, fun _ ↦ rfl⟩
      · cases success <;> simp [Conclusion.exitCode]
      · obtain ⟨fault, hfault⟩ := hsome
        exact absurd hfault (hsound fault)

/-- A flag of the environment that holds no word for true or false is explained by `tokens`, though
no listing depends on it. -/
theorem tokens_of_wrong_flag :
    let tree : FileTree := ⟨[(["a.bugs"], .file "move".toUTF8.toList)]⟩
    let workplace := Workplace.ofTree tree ⟨none, some "maybe", none⟩ fun _ ↦ "Invalid statement"
    let conclusion := run workplace ["tokens", "a.bugs"]
    (∀ cause, ¬ Stranded workplace ["tokens", "a.bugs"] cause) ∧
      CommandFault.Applies workplace ["tokens", "a.bugs"]
        (.settings (.notAFlag "BUGS_RESTORE_SIGN" "maybe")) ∧
      conclusion.exitCode = 1 ∧ conclusion.output = "" ∧
      conclusion.errors =
        "What happened: BUGS_RESTORE_SIGN has an unsupported value 'maybe'.\n" ++
        "Why: Flags accept 1/0, true/false, yes/no or on/off.\n" ++
        "Fix: Set BUGS_RESTORE_SIGN to one of the supported values.\n" ++
        "Example: BUGS_RESTORE_SIGN=1\n" := by
  intro tree workplace conclusion
  have hasks : Asks ["tokens", "a.bugs"] "a.bugs" :=
    .tokens rfl ⟨by decide +kernel, by decide +kernel⟩
  have hprogram : workplace.program "a.bugs" = some (.file "move".toUTF8.toList) := by
    decide +kernel
  have hdecode : Utf8.decode "move".toUTF8.toList = .ok "move".toList := by decide +kernel
  have hsettings : (workplace.settings "a.bugs").2 = none := by decide +kernel
  have hfree (cause : Unreadable) : ¬ Stranded workplace ["tokens", "a.bugs"] cause := by
    rintro ⟨path, hasks', hstrands⟩
    obtain rfl := hasks.path_eq hasks'
    cases hstrands with
    | program h => cases hprogram.symm.trans h
    | settings _ _ hnode => cases hsettings.symm.trans hnode
  have hflag : SettingsFault.Applies workplace.reason (workplace.settings "a.bugs").1
      (workplace.settings "a.bugs").2 workplace.environment
      (.notAFlag "BUGS_RESTORE_SIGN" "maybe") :=
    .notAFlag (by decide +kernel) (by decide) (by decide +kernel)
  have hfault : CommandFault.Applies workplace ["tokens", "a.bugs"]
      (.settings (.notAFlag "BUGS_RESTORE_SIGN" "maybe")) :=
    .hinders hasks (.settings hflag)
  obtain ⟨hcode, houtput, fault, happlies, herrors⟩ :=
    ((failures_explained workplace ["tokens", "a.bugs"]).2 hfree).2.1 ⟨_, hfault⟩
  refine ⟨hfree, hfault, hcode, houtput, herrors.trans ?_⟩
  -- no other fault applies, so the explanation is that of the flag
  have honly : fault = .settings (.notAFlag "BUGS_RESTORE_SIGN" "maybe") := by
    cases happlies with
    | misuse h => exact absurd h (hasks.not_misuse fault)
    | hinders hasks' h =>
      obtain rfl := hasks.path_eq hasks'
      cases h with
      | noProgram h => simp [hprogram] at h
      | notUtf8 hfile htext =>
        cases hprogram.symm.trans hfile
        cases hdecode.symm.trans htext
      | settings h =>
        cases h with
        | malformed hnode => cases hsettings.symm.trans hnode
        | wrongType hholds =>
          rw [hsettings] at hholds
          cases hholds
        | notAFlag hmem =>
          have hflags : workplace.environment.flags =
            [("BUGS_TRACK_LINES", none), ("BUGS_RESTORE_SIGN", some "maybe")] := rfl
          rw [hflags] at hmem
          obtain ⟨rfl, rfl⟩ := by simpa using hmem
          rfl
  rw [honly]
  rfl

/-- One byte that is no text, in the settings file beside a sound program, aborts a check. Nothing
explains why. -/
theorem bad_settings_byte_aborts :
    let program := "Bug A \x7b\nmove 1\n\x7d\n".toUTF8.toList
    let tree : FileTree := ⟨[(["a.bugs"], .file program), (["bugs.toml"], .file [0xFF])]⟩
    let workplace := Workplace.ofTree tree ⟨none, none, none⟩ fun _ ↦ "Invalid statement"
    let conclusion := run workplace ["check", "a.bugs"]
    conclusion = .aborted (.notUtf8 (.invalidStart 0 0xFF)) ∧ conclusion.errors = "" := by
  intro program tree workplace conclusion
  have hasks : Asks ["check", "a.bugs"] "a.bugs" :=
    .check rfl ⟨by decide +kernel, by decide +kernel⟩
  have hprogram : workplace.program "a.bugs" = some (.file program) := by decide +kernel
  have hsettings : (workplace.settings "a.bugs").2 = some (.file [0xFF]) := by decide +kernel
  have htext : Utf8.decode program = .ok "Bug A \x7b\nmove 1\n\x7d\n".toList := by decide +kernel
  have haborted : conclusion = .aborted (.notUtf8 (.invalidStart 0 0xFF)) :=
    Stranded.run_eq
      ⟨"a.bugs", hasks, .settings hprogram htext hsettings (.notUtf8 (by decide +kernel))⟩
  exact ⟨haborted, by rw [haborted]; rfl⟩

end Bugs.CommandLine
