import Bugs.Token

/-!
# Reading a token list

A tape is a token list that is not empty; whoever reads past its end gets the last token
again. A cursor stands on a tape, counts lines if it is asked to, and can take back the one
token it fetched last. A mark returns it to any place where it stood before.
-/

namespace Bugs

/-- A token list with at least one token. -/
structure Tape where
  tokens : Array Token
  nonempty : 0 < tokens.size

namespace Tape

/-- The tape of a list, unless the list is empty. -/
def ofList? (tokens : List Token) : Option Tape :=
  if h : 0 < tokens.toArray.size then some ⟨tokens.toArray, h⟩ else none

/-- The number of tokens. -/
def size (tape : Tape) : Nat :=
  tape.tokens.size

/-- The token read at a position. Every position past the end reads the last token. -/
def look (tape : Tape) (position : Nat) : Token :=
  have := tape.nonempty
  tape.tokens[min position (tape.tokens.size - 1)]

/-- The tokens from a position on. -/
def remaining (tape : Tape) (position : Nat) : List Token :=
  tape.tokens.toList.drop position

end Tape

/-- How a text is recognized. -/
structure Options where
  /-- Counts lines and gives columns; otherwise every line is the first. -/
  trackLines : Bool
  /-- Gives back a leading sign that no term follows; otherwise it is dropped. -/
  restoreSign : Bool
deriving Repr, DecidableEq

/-- What a recognition reads and never changes. -/
structure Setup where
  tape : Tape
  options : Options

/-- A place on a tape. -/
structure Cursor where
  /-- How many tokens have been fetched. -/
  position : Nat
  /-- The line counter. -/
  line : Int
  /-- The line counter before the last fetch, while that fetch can be taken back. -/
  undo : Option Int
deriving Repr, DecidableEq

/-- A remembered place. -/
structure Mark where
  position : Nat
  line : Int
deriving Repr, DecidableEq

namespace Cursor

/-- The place before the first token. -/
def start : Cursor :=
  ⟨0, 1, none⟩

/-- The token that the next fetch returns. -/
def peek (cursor : Cursor) (tape : Tape) : Token :=
  tape.look cursor.position

/-- The cursor after a fetch. A line end moves the line counter behind itself if lines are
tracked. -/
def advance (cursor : Cursor) (setup : Setup) : Cursor :=
  let token := cursor.peek setup.tape
  let line :=
    if token.kind = .endOfLine ∧ setup.options.trackLines then token.line + 1 else cursor.line
  ⟨cursor.position + 1, line, some cursor.line⟩

/-- Takes the last fetch back. Only one fetch can be taken back, so there may be none. -/
def pushBack? (cursor : Cursor) : Option Cursor :=
  cursor.undo.map fun line ↦ ⟨cursor.position - 1, line, none⟩

/-- The place where the cursor stands. -/
def mark (cursor : Cursor) : Mark :=
  ⟨cursor.position, cursor.line⟩

end Cursor

/-- The cursor returned to a mark. No fetch can then be taken back. -/
def Mark.cursor (mark : Mark) : Cursor :=
  ⟨mark.position, mark.line, none⟩

end Bugs
