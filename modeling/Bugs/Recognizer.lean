import Bugs.Rule.Matcher
import Bugs.Token.Scan

/-!
# Recognizing a program

A recognition runs the matcher of a nonterminal on the tape of a program text. Its budget
grows with the number of tokens that lie ahead, which is enough for every tape whose last
token marks the end of the input.
-/

namespace Bugs

/-- The budget for a run that starts at a state. Between two fetched tokens the
nonterminals nest at most sixteen deep. -/
def State.budget (state : State) (setup : Setup) : Nat :=
  16 * (setup.tape.size - state.cursor.position + 8)

/-- Runs the matcher of a nonterminal. -/
def Rule.run (setup : Setup) (rule : Rule) : Run := fun state ↦
  rule.runWith Rule.matcher setup (state.budget setup) state

/-- Runs a matcher. -/
def Matcher.run (setup : Setup) (matcher : Matcher) : Run := fun state ↦
  matcher.runWith setup (Rule.runWith Rule.matcher setup (state.budget setup))
    (state.budget setup) state

/-- The tape of a program text. -/
def Tape.ofSource (lexicon : Lexicon) (source : String) : Tape where
  tokens := (tokenize lexicon source).toArray
  nonempty := by
    have := placeTokens_ne_nil lexicon .start (lexemes source.toList)
    simpa [tokenize] using List.length_pos_iff.mpr this

/-- The state before the first token is read. -/
def State.start (log : Option TraceLog) : State :=
  ⟨.start, log⟩

/-- Checks a program text against the grammar. -/
def checkSource (lexicon : Lexicon) (options : Options) (log : Option TraceLog)
    (source : String) : Ending × State :=
  Rule.program.run ⟨.ofSource lexicon source, options⟩ (.start log)

namespace Ending

/-- The diagnostic of a failed run. -/
def diagnostic? : Ending → Option Diagnostic
  | failed diagnostic => some diagnostic
  | _ => none

/-- The name of an ending in a report. -/
def label : Ending → String
  | matched => "matched"
  | failed _ => "fatal"
  | _ => "not_matched"

/-- What a report says of an ending: the verdict and, after a failure, the diagnostic. -/
def fields (ending : Ending) : List (String × Json) :=
  [("ok", .bool (ending = matched)), ("outcome", .string ending.label)] ++
    match ending.diagnostic? with
    | none => []
    | some diagnostic =>
      [("line", .integer diagnostic.line),
        ("column", diagnostic.column.elim .null .integer),
        ("message", .string diagnostic.message)]

end Ending

end Bugs
