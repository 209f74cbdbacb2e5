import Bugs.Recognizer

/-!
# Sessions

A session is a recognition driven from outside, one operation at a time: fetch a token or
take one back, remember a place and return to it, or run a matcher. It goes on after a
failure.
-/

namespace Bugs

/-- A tape with the state reached on it and the places remembered so far. -/
structure Session where
  setup : Setup
  state : State
  marks : Array Mark

/-- What can be asked of a session. -/
inductive Operation where
  | next
  | peek
  | pushBack
  | mark
  /-- Returns to the mark of the given number, counted from zero. -/
  | reset (index : Nat)
  | read (matcher : Matcher)
  | clearTrace
deriving Repr, DecidableEq

/-- What a session answers. -/
inductive Reply where
  | done
  | token (token : Token)
  /-- The number of a new mark. -/
  | marked (index : Nat)
  | ended (ending : Ending)
  /-- No fetch can be taken back. -/
  | nothingFetched
  /-- No mark has this number. -/
  | unknownMark
deriving Repr, DecidableEq

/-- Why a session cannot start or an operation cannot be carried out. -/
inductive SessionFault where
  | emptyTape
  | nothingFetched
  | unknownRule (name : String)
deriving Repr, DecidableEq

/-- The wording of a fault. -/
def SessionFault.message : SessionFault → String
  | emptyTape => "token stream needs at least the EOF token"
  | nothingFetched => "push_back called twice without an intervening next_token"
  | unknownRule name => "unknown grammar rule " ++ Text.quote name

namespace Session

/-- A session at the beginning of a tape. -/
def start (setup : Setup) (log : Option TraceLog) : Session :=
  ⟨setup, .start log, #[]⟩

/-- The session with its cursor moved. -/
def moved (session : Session) (cursor : Cursor) : Session :=
  { session with state := { session.state with cursor := cursor } }

/-- Carries an operation out. -/
def perform (session : Session) : Operation → Reply × Session
  | .next =>
    (.token (session.state.cursor.peek session.setup.tape),
      session.moved (session.state.cursor.advance session.setup))
  | .peek => (.token (session.state.cursor.peek session.setup.tape), session)
  | .pushBack =>
    match session.state.cursor.pushBack? with
    | some cursor => (.done, session.moved cursor)
    | none => (.nothingFetched, session)
  | .mark =>
    (.marked session.marks.size,
      { session with marks := session.marks.push session.state.cursor.mark })
  | .reset index =>
    match session.marks[index]? with
    | some mark => (.done, session.moved mark.cursor)
    | none => (.unknownMark, session)
  | .read matcher =>
    let result := matcher.run session.setup session.state
    (.ended result.1, { session with state := result.2 })
  | .clearTrace =>
    (.done,
      { session with
        state := { session.state with log := session.state.log.map TraceLog.reset } })

/-- Carries operations out one after another. -/
def performAll (session : Session) : List Operation → List Reply × Session
  | [] => ([], session)
  | operation :: rest =>
    let first := session.perform operation
    let others := first.2.performAll rest
    (first.1 :: others.1, others.2)

/-- The tokens that lie ahead. -/
def remaining (session : Session) : List Token :=
  session.setup.tape.remaining session.state.cursor.position

end Session

end Bugs
