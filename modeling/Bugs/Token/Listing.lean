import Bugs.Json
import Bugs.Token

/-!
# Listing tokens

A listing shows one token a line: its place, its class and its text, with tabs between
them. A text that is a line feed is shown as a backslash and the letter n; all other texts
stand as they are.
-/

namespace Bugs.Token

/-- The text of a token as a listing shows it. -/
def shownText (token : Token) : String :=
  if token.text = "\n" then "\\n" else token.text

/-- The line of a listing that shows a token. -/
def listingLine (token : Token) : String :=
  toString token.line ++ ":" ++ toString token.column ++ "\t" ++ token.kind.label ++ "\t" ++
    token.shownText

/-- The listing of tokens; every line ends with a line feed. -/
def listing (tokens : List Token) : String :=
  String.join (tokens.map (·.listingLine ++ "\n"))

/-- A token as a record of its four parts. -/
def toJson (token : Token) : Json :=
  .object
    [("kind", .string token.kind.label), ("text", .string token.text),
      ("line", .integer token.line), ("column", .integer token.column)]

end Bugs.Token
