import Bugs.Proofs.CommandLine.Invocation
import Bugs.Proofs.Json.Pretty
import Bugs.Proofs.Json.Quotation
import Bugs.Proofs.LineBreakForms
import Bugs.Proofs.Observation

/-!
# One verdict in every mode

The command `check` has one verdict on a program, that of the check of its text without a trace,
with the options of the project and those that the flags turn on. The exit code, the first line
behind the lines of a trace and the record all show this verdict. The flags for a record and for a
trace do not change it, and neither does the way in which flags are ordered and repeated around the
path.

## Main definitions

* `TraceLog.lines`: the lines that a trace takes in the text output.
* `Ending.headline`: the line that states the verdict.
* `CommandLine.recordLines`: the lines of the record of a check.
* `CommandLine.Conclusion.Shows`: a conclusion shows how a check ends.

## Main results

* `CommandLine.pretty_verdictJson`: the printed record consists of these lines.
* `CommandLine.run_check`: the command does what the check of the text does.
* `CommandLine.CheckCall.shows_conclude`.
* `CommandLine.check_shows_one_verdict`.
-/

namespace Bugs

/-! ### Text -/

/-- The events of a trace log, each on a line of its own. -/
def TraceLog.lines (log : TraceLog) : String :=
  String.join (log.events.toList.map (·.text ++ "\n"))

theorem intercalate_append_eq_join {texts : List String} (h : texts ≠ []) :
    String.intercalate "\n" texts ++ "\n" = String.join (texts.map (· ++ "\n")) := by
  induction texts with
  | nil => exact absurd rfl h
  | cons text texts ih =>
    cases texts with
    | nil => simp [String.intercalate_singleton]
    | cons next texts =>
      rw [String.intercalate_cons_cons, List.map_cons, String.join_cons, ← ih (by simp)]
      simp only [String.append_assoc]

theorem TraceLog.printed_eq_lines (log : TraceLog) :
    (if log.count none = 0 then "" else log.text ++ "\n") = log.lines := by
  split
  · rename_i h
    have hnil : log.events.toList = [] := by simpa [TraceLog.count] using h
    rw [lines, hnil]
    rfl
  · rename_i h
    have hne : log.events.toList ≠ [] := by simpa [TraceLog.count] using h
    rw [TraceLog.text, intercalate_append_eq_join (by simpa using hne), lines, List.map_map]
    rfl

/-- The line that states a verdict. -/
def Ending.headline (ending : Ending) : String :=
  if ending = .matched then "Syntax: OK" else "Syntax: FAIL"

/-- The text output begins with the lines of the trace, if there is one, and the headline. -/
theorem CommandLine.exists_verdictText_eq (source : String) (ending : Ending)
    (log : Option TraceLog) :
    ∃ rest, verdictText source ending log =
      log.elim "" TraceLog.lines ++ ending.headline ++ "\n" ++ rest := by
  have hevents : verdictText source ending log =
      log.elim "" TraceLog.lines ++ verdictText source ending none := by
    cases log with
    | none => simp [verdictText]
    | some log =>
      simp only [verdictText, log.printed_eq_lines, Option.elim_some, String.empty_append]
  have hverdict : ∃ rest, verdictText source ending none = ending.headline ++ "\n" ++ rest := by
    cases ending with
    | matched => exact ⟨"", rfl⟩
    | failed diagnostic =>
      refine ⟨diagnostic.report.excerpt source ++ "\n", ?_⟩
      simp only [verdictText, String.empty_append, ← String.append_assoc]
      rfl
    | unmatched | offTape | nothingFetched | exhausted =>
      exact ⟨"No Bug definition found.\n", rfl⟩
  obtain ⟨rest, hrest⟩ := hverdict
  exact ⟨rest, by rw [hevents, hrest, String.append_assoc, String.append_assoc,
    String.append_assoc]⟩

/-! ### Records -/

namespace CommandLine

/-- The lines of a record that state how a check ends: the verdict, the outcome and, after a
failure, the line, the column and the message, with the path of the program. They ascend. -/
def verdictLines (path : String) : Ending → List String
  | .matched =>
    ["  \"file\": " ++ Json.quoted (Path.shown path), "  \"ok\": true",
      "  \"outcome\": \"matched\""]
  | .failed diagnostic =>
    ["  \"column\": " ++ diagnostic.column.elim "null" toString,
      "  \"file\": " ++ Json.quoted (Path.shown path),
      "  \"line\": " ++ toString diagnostic.line,
      "  \"message\": " ++ Json.quoted diagnostic.message, "  \"ok\": false",
      "  \"outcome\": \"fatal\""]
  | _ =>
    ["  \"file\": " ++ Json.quoted (Path.shown path), "  \"ok\": false",
      "  \"outcome\": \"not_matched\""]

/-- The lines of the record of a check, with the trace as the last field, if there is one. -/
def recordLines (path : String) (ending : Ending) (log : Option TraceLog) : List String :=
  verdictLines path ending ++
    (log.map fun log ↦ "  \"trace\": " ++ log.toJson.prettyAt 1).toList

/-- The fields of the verdict, in ascending order of their keys. -/
def verdictFields (path : String) (ending : Ending) : List (String × Json) :=
  match ending.diagnostic? with
  | none =>
    [("file", .string (Path.shown path)), ("ok", .bool (ending = .matched)),
      ("outcome", .string ending.label)]
  | some diagnostic =>
    [("column", diagnostic.column.elim .null .integer), ("file", .string (Path.shown path)),
      ("line", .integer diagnostic.line), ("message", .string diagnostic.message),
      ("ok", .bool (ending = .matched)), ("outcome", .string ending.label)]

theorem pairwise_verdictFields (path : String) (ending : Ending) (log : Option TraceLog) :
    (verdictFields path ending ++
      (log.map fun log ↦ ("trace", log.toJson)).toList).Pairwise (·.1 < ·.1) := by
  have hkeys : ["column", "file", "line", "message", "ok", "outcome", "trace"].Pairwise (· < ·) := by
    decide
  refine List.pairwise_map.mp (hkeys.sublist ?_)
  cases hdiagnostic : ending.diagnostic? <;> cases log <;>
  · simp only [verdictFields, hdiagnostic, List.map_append, List.map_cons, List.map_nil,
      Option.map_none, Option.map_some, Option.toList_none, Option.toList_some]
    decide

theorem verdictFields_perm (path : String) (ending : Ending) :
    (ending.fields ++ [("file", Json.string (Path.shown path))]).Perm
      (verdictFields path ending) := by
  cases hdiagnostic : ending.diagnostic? <;>
  · simp only [Ending.fields, verdictFields, hdiagnostic]
    refine (List.perm_ext_iff_of_nodup (by simp) (by simp)).mpr fun field ↦ ?_
    simp only [List.mem_cons, List.not_mem_nil, List.mem_append]
    grind

theorem quoted_word {word : String}
    (h : word ∈ ["column", "file", "line", "message", "ok", "outcome", "trace", "matched", "fatal",
      "not_matched"]) :
    Json.quoted word = "\"" ++ word ++ "\"" := by
  refine Json.quoted_of_plain ?_
  revert word
  decide +kernel

theorem map_verdictFields (path : String) (ending : Ending) :
    (verdictFields path ending).map
        (fun field ↦ "  " ++ (Json.quoted field.1 ++ ": " ++ field.2.prettyAt 1)) =
      verdictLines path ending := by
  cases ending with
  | failed diagnostic =>
    cases hcolumn : diagnostic.column <;>
      simp [verdictFields, verdictLines, hcolumn, Ending.diagnostic?, Ending.label, Json.prettyAt,
        quoted_word, ← String.append_assoc]
  | matched | unmatched | offTape | nothingFetched | exhausted =>
    simp [verdictFields, verdictLines, Ending.diagnostic?, Ending.label, Json.prettyAt,
      quoted_word, ← String.append_assoc]

/-- The record of a check is printed in its lines. -/
theorem pretty_verdictJson (path : String) (ending : Ending) (log : Option TraceLog) :
    (verdictJson path ending log).pretty =
      "\x7b\n" ++ String.intercalate ",\n" (recordLines path ending log) ++ "\n\x7d" := by
  have hne : verdictFields path ending ≠ [] := by
    cases ending <;> simp [verdictFields, Ending.diagnostic?]
  have htrace : ((log.map fun log ↦ ("trace", log.toJson)).toList).map (fun field ↦
      "  " ++ (Json.quoted field.1 ++ ": " ++ field.2.prettyAt 1)) =
        (log.map fun log ↦ "  \"trace\": " ++ log.toJson.prettyAt 1).toList := by
    cases log <;> simp [quoted_word, ← String.append_assoc]
  rw [verdictJson, Json.pretty_object (pairwise_verdictFields path ending log)
    ((verdictFields_perm path ending).append_right _) (List.append_ne_nil_of_left_ne_nil hne _),
    List.map_append, htrace, map_verdictFields, recordLines]

end CommandLine

/-! ### Conclusions -/

namespace CommandLine

/-- A conclusion shows how a check ends, behind the lines of its trace or as a record. -/
structure Conclusion.Shows (conclusion : Conclusion) (path : String) (arguments : List String)
    (log : Option TraceLog) (ending : Ending) : Prop where
  exitCode : conclusion.exitCode = if ending = .matched then 0 else 1
  errors : conclusion.errors = ""
  traced : log.isSome = true ↔ "--trace" ∈ arguments
  text : "--json" ∉ arguments →
    ∃ rest, conclusion.output = log.elim "" TraceLog.lines ++ ending.headline ++ "\n" ++ rest
  record : "--json" ∈ arguments →
    conclusion.output =
      "\x7b\n" ++ String.intercalate ",\n" (recordLines path ending log) ++ "\n\x7d\n"

variable {workplace : Workplace} {path source : String} {settings : Settings}
  {arguments : List String}

/-- The options of a check with some arguments. -/
def optionsWith (settings : Settings) (arguments : List String) : Options :=
  ⟨settings.trackLines || arguments.contains "--track-lines",
    settings.restoreSign || arguments.contains "--restore-sign"⟩

/-- The log that a check starts with, if its arguments ask for a trace. -/
def logFor (arguments : List String) : Option TraceLog :=
  if arguments.contains "--trace" then some (.empty .debug) else none

theorem optionsWith_congr (settings : Settings) {arguments arguments' : List String}
    (h : ∀ flag ∈ ["--track-lines", "--restore-sign"], flag ∈ arguments' ↔ flag ∈ arguments) :
    optionsWith settings arguments' = optionsWith settings arguments := by
  simp only [List.forall_mem_cons] at h
  simp only [optionsWith, List.contains_eq_mem, h]

/-- The command comes to what a check of the program text comes to. -/
theorem run_check (hprovides : workplace.Provides path source settings)
    (harguments : Invokes checkFlags arguments path) :
    run workplace ("check" :: arguments) = (checkCall path arguments).conclude source settings := by
  rw [run_check_of_invokes workplace harguments, hprovides.withProgram,
    CheckCall.conclude_withLineFeeds]

/-- A check shows how the check of the text without a trace ends. -/
theorem CheckCall.shows_conclude (path source : String) (settings : Settings)
    (arguments : List String) :
    let options := optionsWith settings arguments
    ((checkCall path arguments).conclude source settings).Shows path arguments
      (checkSource settings.lexicon options (logFor arguments) source).2.log
      (checkSource settings.lexicon options none source).1 := by
  intro options
  have hending : (checkSource settings.lexicon options (logFor arguments) source).1 =
      (checkSource settings.lexicon options none source).1 := checkSource_ending_eq ..
  have hlog : (checkSource settings.lexicon options (logFor arguments) source).2.log.isSome =
      (logFor arguments).isSome :=
    (Rule.program.runs_run (Tape.endsOnce_ofSource settings.lexicon source).ends _).isSome_log
  -- the shown check has the log that is asked for, and ends as the one without a log
  rw [← hending]
  generalize hresult :
    checkSource settings.lexicon options (logFor arguments) source = result at hlog
  have hconclude : (checkCall path arguments).conclude source settings =
      .printed (result.1 = .matched)
        (if "--json" ∈ arguments then (verdictJson path result.1 result.2.log).pretty ++ "\n"
        else verdictText source result.1 result.2.log) := by
    simp only [CheckCall.conclude, ← hresult, ← List.contains_iff_mem]
    rfl
  rw [hconclude]
  constructor
  case exitCode => simp [Conclusion.exitCode]
  case errors => rfl
  case traced => simp [hlog, logFor]
  case text =>
    intro hjson
    obtain ⟨rest, hrest⟩ := exists_verdictText_eq source result.1 result.2.log
    exact ⟨rest, by simp only [Conclusion.output, if_neg hjson, hrest]⟩
  case record =>
    intro hjson
    simp only [Conclusion.output, if_pos hjson, pretty_verdictJson]
    rw [String.append_assoc]
    rfl

/-- Whatever the arguments ask for, the command has one verdict on a program: that of the check of
its text with the standard words and the colors of the project, and with the options of the project
and those that the arguments turn on. The exit code and the text or the record show it. Other
arguments with the same options have the same verdict and the same exit code; if they ask for the
same output as well, the command comes to the same. A text can be read off the form in which a
record quotes it. -/
theorem check_shows_one_verdict (hprovides : workplace.Provides path source settings)
    (harguments : Invokes checkFlags arguments path) :
    let conclusion := run workplace ("check" :: arguments)
    let check := checkSource (Lexicon.standard.withColors settings.extraColors)
      (optionsWith settings arguments)
    conclusion.Shows path arguments (check (logFor arguments) source).2.log
        (check none source).1 ∧
      (∀ arguments', Invokes checkFlags arguments' path →
        (∀ flag ∈ ["--track-lines", "--restore-sign"], flag ∈ arguments' ↔ flag ∈ arguments) →
        let conclusion' := run workplace ("check" :: arguments')
        conclusion'.exitCode = conclusion.exitCode ∧
          conclusion'.Shows path arguments' (check (logFor arguments') source).2.log
            (check none source).1 ∧
          ((∀ flag ∈ ["--json", "--trace"], flag ∈ arguments' ↔ flag ∈ arguments) →
            conclusion' = conclusion)) ∧
      Function.Injective Json.quoted := by
  intro conclusion check
  have hshows : conclusion.Shows path arguments (check (logFor arguments) source).2.log
      (check none source).1 := by
    simp only [conclusion, run_check hprovides harguments]
    exact CheckCall.shows_conclude path source settings arguments
  refine ⟨hshows, ?_, Json.quoted_injective⟩
  intro arguments' harguments' hoptions conclusion'
  have hshows' : conclusion'.Shows path arguments' (check (logFor arguments') source).2.log
      (check none source).1 := by
    simp only [conclusion', run_check hprovides harguments', check,
      ← optionsWith_congr settings hoptions]
    exact CheckCall.shows_conclude path source settings arguments'
  refine ⟨hshows'.exitCode.trans hshows.exitCode.symm, hshows', fun houtput ↦ ?_⟩
  have hflags : ∀ flag ∈ checkFlags, flag ∈ arguments' ↔ flag ∈ arguments :=
    List.forall_mem_append.mpr ⟨houtput, hoptions⟩
  simp only [conclusion', conclusion, run_check hprovides harguments,
    run_check hprovides harguments', checkCall_congr path hflags]

/-- A program with an unfinished action fails, and the record shows where and why. So it does with a
trace in front of the text, however often the flag for the trace is given. -/
theorem check_of_unfinished_action :
    let source := "Bug A \x7b\nmove\n\x7d\n"
    let tree : FileTree := ⟨[(["a.bugs"], .file source.toUTF8.toList)]⟩
    let workplace := Workplace.ofTree tree ⟨some "yes", none, none⟩ fun _ ↦ "Invalid statement"
    let settings : Settings := ⟨true, false, []⟩
    let record := run workplace ["check", "a.bugs", "--json"]
    let traced := run workplace ["check", "--trace", "a.bugs", "--trace"]
    workplace.Provides "a.bugs" source settings ∧ record.exitCode = 1 ∧
      record.output = "\x7b\n" ++
        "  \"column\": 5,\n" ++
        "  \"file\": \"a.bugs\",\n" ++
        "  \"line\": 2,\n" ++
        "  \"message\": \"Incomplete move action, expected an expression\",\n" ++
        "  \"ok\": false,\n" ++
        "  \"outcome\": \"fatal\"\n\x7d\n" ∧
      traced.exitCode = 1 ∧
      ∃ rest, traced.output =
        "trace:0001 debug keyword Bug (line 1)\n" ++
        "trace:0002 info  begin Bug definition (line 1)\n" ++
        "trace:0003 debug keyword move (line 2)\n" ++
        "trace:0004 info  begin move action (line 2)\n" ++
        "trace:0005 error Incomplete move action, expected an expression (line 2)\n" ++
        "Syntax: FAIL\n" ++ rest := by
  intro source tree workplace settings record traced
  have hprovides : workplace.Provides "a.bugs" source settings := by
    have hfile : workplace.program "a.bugs" = some (.file source.toUTF8.toList) := by
      decide +kernel
    have hsettings : workplace.settings "a.bugs" = ("bugs.toml", none) := by decide +kernel
    have hmerge : Settings.merge none workplace.environment = .ok settings := by decide +kernel
    refine ⟨⟨_, hfile, by decide +kernel⟩, [.environment], ?_⟩
    simp only [hsettings, Settings.resolve, Settings.settle, Option.map_none, hmerge]
    rfl
  have hrecord : Invokes checkFlags ["a.bugs", "--json"] "a.bugs" := by
    constructor <;> decide +kernel
  have htrace : Invokes checkFlags ["--trace", "a.bugs", "--trace"] "a.bugs" := by
    constructor <;> decide +kernel
  let check := checkSource (Lexicon.standard.withColors settings.extraColors)
    (optionsWith settings ["a.bugs", "--json"])
  have hfails : (check none source).1 =
      .failed ⟨.actionExpression .move, 2, some 5, .endOfLine, "\n"⟩ := by decide +kernel
  have hlines : (check (logFor ["--trace", "a.bugs", "--trace"]) source).2.log.elim ""
      TraceLog.lines =
        "trace:0001 debug keyword Bug (line 1)\n" ++
        "trace:0002 info  begin Bug definition (line 1)\n" ++
        "trace:0003 debug keyword move (line 2)\n" ++
        "trace:0004 info  begin move action (line 2)\n" ++
        "trace:0005 error Incomplete move action, expected an expression (line 2)\n" := by
    decide +kernel
  obtain ⟨hshows, hothers, -⟩ := check_shows_one_verdict hprovides hrecord
  obtain ⟨hcode, hshows', -⟩ := hothers _ htrace (by decide +kernel)
  have hcode1 : record.exitCode = 1 := by
    rw [hshows.exitCode, hfails, if_neg nofun]
  have hnone : (check (logFor ["a.bugs", "--json"]) source).2.log = none := by
    rw [← Option.not_isSome_iff_eq_none, hshows.traced]
    decide
  obtain ⟨rest, htext⟩ := hshows'.text (by decide)
  refine ⟨hprovides, hcode1, ?_, hcode.trans hcode1, rest, ?_⟩
  · rw [hshows.record (by decide), hfails, hnone]
    decide +kernel
  · have hheadline : (check none source).1.headline ++ "\n" = "Syntax: FAIL\n" := by
      rw [hfails]
      decide +kernel
    rw [htext, hlines, ← hheadline]
    simp only [String.append_assoc]
    rfl

end CommandLine

end Bugs
