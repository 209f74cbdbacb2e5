import Bugs.Complaint
import Bugs.Rule
import Bugs.Tape
import Bugs.Trace

/-!
# Matchers

A matcher reads tokens from a tape and ends in one of three ways: it matched and stands
behind what it read, it did not match, or it is committed to a construct that lacks a part.
Matchers are values of a small language of tests, sequences, choices, loops, commitments
and rewinds. `Matcher.run` says what a matcher does; which matcher belongs to which
nonterminal is a parameter here.

A run has a budget, since a matcher may read the last token of a tape for ever. The budget
bounds the depth of nested nonterminals and the laps of each loop.
-/

namespace Bugs

/-- A reader of tokens. -/
inductive Matcher where
  /-- Reads one token that passes a test, and puts any other back. -/
  | token (test : TokenTest)
  /-- Reads a keyword, or the keyword of the given text, and reports it to the trace. -/
  | keyword (word : Option String)
  /-- Reads nothing and reports the beginning of a construct to the trace. -/
  | announce (construct : String)
  /-- Reads a nonterminal. -/
  | rule (name : Rule)
  /-- Reads the first and, once that matched, the second. -/
  | both (first second : Matcher)
  /-- Reads the first or, if that did not match, the second. -/
  | either (first second : Matcher)
  /-- Complains if the matcher does not match. -/
  | must (matcher : Matcher) (complaint : Complaint)
  /-- Reads the matcher if it matches, and matches in any case. -/
  | optional (matcher : Matcher)
  /-- Reads the matcher as often as it matches. -/
  | many (matcher : Matcher)
  /-- Returns to where it began if the matcher does not match. -/
  | rewind (matcher : Matcher)
  /-- Returns to where it began if the matcher does not match and the options ask for it. -/
  | rewindSign (matcher : Matcher)
deriving Repr, DecidableEq

namespace Matcher

/-- Reads matchers one after another. -/
def andThen (first : Matcher) : List Matcher → Matcher
  | [] => first
  | second :: rest => both first (second.andThen rest)

instance : OrElse Matcher := ⟨fun first second ↦ either first (second ())⟩

/-- Reads a symbol of the given text. -/
def symbol (text : String) : Matcher :=
  token ⟨.symbol, some text⟩

/-- Reads a name. -/
def anyName : Matcher :=
  token ⟨.name, none⟩

/-- Reads a number. -/
def anyNumber : Matcher :=
  token ⟨.number, none⟩

/-- Reads a line end. -/
def endOfLine : Matcher :=
  token ⟨.endOfLine, none⟩

/-- Reads the end of the input. -/
def endOfInput : Matcher :=
  token ⟨.endOfInput, none⟩

/-- Reads the keyword that commits to a construct. -/
def opening (word : String) (construct : String) : Matcher :=
  both (keyword (some word)) (announce construct)

end Matcher

/-- What a run changes: the cursor and, where one is attached, the trace log. -/
structure State where
  cursor : Cursor
  log : Option TraceLog

namespace State

/-- The state with an event more in its trace log, if it has one. -/
def record (state : State) (level : Level) (message : String)
    (fields : List (String × Json)) : State :=
  { state with
    log := state.log.map fun log ↦
      log.record level message (some (.object (("line", .integer state.cursor.line) :: fields))) }

/-- The state returned to a mark; the trace log stays. -/
def rewound (state : State) (mark : Mark) : State :=
  { state with cursor := mark.cursor }

end State

/-- How a run ends. -/
inductive Ending where
  | matched
  | unmatched
  /-- A committed construct lacks a part. -/
  | failed (diagnostic : Diagnostic)
  /-- The trace asks for the text of a keyword that was read past the end of the tape. -/
  | offTape
  /-- A fetch is to be taken back, but none can be. -/
  | nothingFetched
  /-- The budget is used up. -/
  | exhausted
deriving Repr, DecidableEq

/-- What a run takes from a state to its ending and the state it leaves. -/
abbrev Run := State → Ending × State

/-- Reads one token that passes a test, and puts any other back. -/
def readToken (setup : Setup) (test : TokenTest) : Run := fun state ↦
  let token := state.cursor.peek setup.tape
  let next := state.cursor.advance setup
  if test.accepts token then (.matched, { state with cursor := next })
  else
    match next.pushBack? with
    | some back => (.unmatched, { state with cursor := back })
    | none => (.nothingFetched, { state with cursor := next })

/-- Reports the keyword that was just read to the trace log, if there is one. -/
def reportKeyword (setup : Setup) (state : State) : Ending × State :=
  match state.log with
  | none => (.matched, state)
  | some _ =>
    match setup.tape.tokens[state.cursor.position - 1]? with
    | some token => (.matched, state.record .debug ("keyword " ++ token.text) [])
    | none => (.offTape, state)

/-- Reports the beginning of a construct to the trace log. -/
def announceConstruct (construct : String) (state : State) : State :=
  state.record .info ("begin " ++ construct) []

/-- Complains about the token at the cursor. -/
def complain (setup : Setup) (complaint : Complaint) (state : State) : Ending × State :=
  let token := state.cursor.peek setup.tape
  let column := if setup.options.trackLines then some token.column else none
  let diagnostic : Diagnostic := ⟨complaint, state.cursor.line, column, token.kind, token.text⟩
  (.failed diagnostic, state.record .error diagnostic.message diagnostic.details)

/-- Repeats a run until it does not match, at most the given number of laps. -/
def repeatRun (body : Run) : Nat → Run
  | 0, state => (.exhausted, state)
  | laps + 1, state =>
    match body state with
    | (.matched, next) => repeatRun body laps next
    | (.unmatched, next) => (.matched, next)
    | stopped => stopped

/-- What a matcher does, given what nonterminals do and a bound on the laps of its loops. -/
def Matcher.runWith (setup : Setup) (call : Rule → Run) (laps : Nat) : Matcher → Run
  | token test, state => readToken setup test state
  | keyword word, state =>
    match readToken setup ⟨.keyword, word⟩ state with
    | (.matched, next) => reportKeyword setup next
    | stopped => stopped
  | announce construct, state => (.matched, announceConstruct construct state)
  | rule name, state => call name state
  | both first second, state =>
    match first.runWith setup call laps state with
    | (.matched, next) => second.runWith setup call laps next
    | stopped => stopped
  | either first second, state =>
    match first.runWith setup call laps state with
    | (.unmatched, next) => second.runWith setup call laps next
    | stopped => stopped
  | must matcher complaint, state =>
    match matcher.runWith setup call laps state with
    | (.unmatched, next) => complain setup complaint next
    | stopped => stopped
  | optional matcher, state =>
    match matcher.runWith setup call laps state with
    | (.unmatched, next) => (.matched, next)
    | stopped => stopped
  | many matcher, state => repeatRun (matcher.runWith setup call laps) laps state
  | rewind matcher, state =>
    match matcher.runWith setup call laps state with
    | (.unmatched, next) => (.unmatched, next.rewound state.cursor.mark)
    | stopped => stopped
  | rewindSign matcher, state =>
    match matcher.runWith setup call laps state with
    | (.unmatched, next) =>
      (.unmatched, if setup.options.restoreSign then next.rewound state.cursor.mark else next)
    | stopped => stopped

/-- What a nonterminal does within a budget, where each nonterminal has its matcher. -/
def Rule.runWith (definition : Rule → Matcher) (setup : Setup) : Nat → Rule → Run
  | 0, _ => fun state ↦ (.exhausted, state)
  | budget + 1, rule =>
    (definition rule).runWith setup (Rule.runWith definition setup budget) budget

end Bugs
