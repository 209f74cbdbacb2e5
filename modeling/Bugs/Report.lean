import Bugs.Text.Lines

/-!
# Reports and their excerpts

A report is a message that may carry a line and a column. It is shown with its line number
in front and, where the program text is at hand and has that line, with the line itself
and a caret below the column. A guidance is a longer message in up to four parts.
-/

namespace Bugs

/-- A message about a text. -/
structure Report where
  message : String
  line : Option Int
  column : Option Int
deriving Repr, DecidableEq

namespace Report

/-- The message with its line number in front. -/
def headline (report : Report) : String :=
  match report.line with
  | none => report.message
  | some line => "Line " ++ toString line ++ ": " ++ report.message

/-- The line of a text that a line number names, if the text has it. -/
def lineOf? (source : String) (line : Int) : Option (List Char) :=
  if 1 ≤ line then (Text.splitLines Text.isLineSeparator source.toList)[(line - 1).toNat]?
  else none

/-- How many blanks stand before the caret. It points at the column, but no further to the
left than the first character and no further to the right than one past the last. -/
def caretIndent (column : Int) (length : Nat) : Nat :=
  (max 1 (min column (length + 1)) - 1).toNat

/-- The report with an excerpt of the text it is about. -/
def excerpt (report : Report) (source : String) : String :=
  match report.line.bind (lineOf? source) with
  | none => report.headline
  | some line =>
    let shown := report.headline ++ "\n" ++ String.ofList line
    match report.column with
    | none => shown
    | some column =>
      shown ++ "\n" ++ String.ofList (List.replicate (caretIndent column line.length) ' ') ++ "^"

end Report

/-- An explanation in up to four parts; a part that is missing or empty is not shown. -/
structure Guidance where
  what : String
  why : Option String
  fix : Option String
  sample : Option String
deriving Repr, DecidableEq

namespace Guidance

/-- A labelled part, unless it is missing or empty. -/
def part (label : String) (content : Option String) : List String :=
  match content with
  | none => []
  | some text => if text.isEmpty then [] else [label ++ ": " ++ text]

/-- The parts in their order. -/
def lines (guidance : Guidance) : List String :=
  ("What happened: " ++ guidance.what) :: part "Why" guidance.why ++ part "Fix" guidance.fix ++
    part "Example" guidance.sample

/-- The parts, one below the other. -/
def text (guidance : Guidance) : String :=
  String.intercalate "\n" guidance.lines

/-- A report that consists of an explanation. -/
def report (guidance : Guidance) : Report :=
  ⟨guidance.text, none, none⟩

theorem part_some (label : String) {text : String} (h : text ≠ "") :
    part label (some text) = [label ++ ": " ++ text] := by
  rw [part, if_neg (by simpa using h)]

theorem lines_eq (what : String) {why fix : String} (hwhy : why ≠ "") (hfix : fix ≠ "")
    (sample : Option String) :
    lines ⟨what, some why, some fix, sample⟩ =
      ["What happened: " ++ what, "Why: " ++ why, "Fix: " ++ fix] ++ part "Example" sample := by
  simp only [lines, part_some _ hwhy, part_some _ hfix, String.reduceAppend, List.cons_append,
    List.nil_append]

/-- An explanation begins with what happened. -/
theorem exists_text_eq (guidance : Guidance) :
    ∃ rest, guidance.text = "What happened: " ++ guidance.what ++ rest := by
  rw [text, lines, List.cons_append, List.cons_append]
  cases part "Why" guidance.why ++ part "Fix" guidance.fix ++ part "Example" guidance.sample with
  | nil => exact ⟨"", by rw [String.intercalate_singleton, String.append_empty]⟩
  | cons line lines =>
    rw [String.intercalate_cons_cons, String.append_assoc]
    exact ⟨_, rfl⟩

end Guidance

end Bugs
