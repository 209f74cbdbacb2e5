import Bugs.Lexeme
import Bugs.Lexicon
import Bugs.Token

/-!
# From a program text to tokens

The tokens of a text are its lexemes without blanks and comments, each at the place where
it starts, and a last token that marks the end of the input. A place moves with every
character read, so a break inside a block comment starts a new line although it yields no
token. The lexicon decides one thing only: which words are keywords.
-/

namespace Bugs

/-- A line and a column of a text, both counted from one. -/
structure Place where
  line : Nat
  column : Nat
deriving Repr, DecidableEq

/-- The place of the first character. -/
def Place.start : Place := ⟨1, 1⟩

/-- The place reached after some characters. A carriage return before a line feed is one
break with it. -/
def Place.after (place : Place) : List Char → Place
  | [] => place
  | '\r' :: '\n' :: rest => Place.after ⟨place.line + 1, 1⟩ rest
  | c :: rest =>
    if isBreak c then Place.after ⟨place.line + 1, 1⟩ rest
    else Place.after ⟨place.line, place.column + 1⟩ rest

/-- The token of a class and text at a place. -/
def Token.placedAt (place : Place) (kind : TokenKind) (text : String) : Token :=
  ⟨kind, text, place.line, place.column⟩

/-- The token that marks the end of the input. -/
def Token.inputEnd (place : Place) : Token :=
  .placedAt place .endOfInput "EOF"

/-- The class of a word. -/
def Lexicon.wordKind (lexicon : Lexicon) (word : String) : TokenKind :=
  if lexicon.isKeyword word then .keyword else .name

/-- The class and text of a lexeme; blanks and comments have none. Every line break has
the same text, and a quoted text stands without its quotes. -/
def Lexeme.content? (lexicon : Lexicon) : Lexeme → Option (TokenKind × String)
  | blank _ | lineComment _ | blockComment _ _ => none
  | lineBreak _ => some (.endOfLine, "\n")
  | number digits => some (.number, String.ofList digits)
  | word letters => some (lexicon.wordKind (String.ofList letters), String.ofList letters)
  | quoted body _ => some (.quoted, String.ofList body)
  | symbol c => some (.symbol, String.ofList [c])

/-- The tokens of lexemes that start at a place. -/
def placeTokens (lexicon : Lexicon) (place : Place) : List Lexeme → List Token
  | [] => [.inputEnd place]
  | lexeme :: rest =>
    let tail := placeTokens lexicon (place.after lexeme.spelling) rest
    match lexeme.content? lexicon with
    | some (kind, text) => .placedAt place kind text :: tail
    | none => tail

/-- The tokens of a program text. -/
def tokenize (lexicon : Lexicon) (source : String) : List Token :=
  placeTokens lexicon .start (lexemes source.toList)

theorem placeTokens_ne_nil (lexicon : Lexicon) (place : Place) (ls : List Lexeme) :
    placeTokens lexicon place ls ≠ [] := by
  induction ls generalizing place with
  | nil => simp [placeTokens]
  | cons lexeme rest ih =>
    rw [placeTokens]
    split
    · simp
    · exact ih _

end Bugs
