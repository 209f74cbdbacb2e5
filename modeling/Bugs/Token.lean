/-!
# Tokens

A token is a classified piece of a program text together with the place where it
starts. Lines and columns count from one, and a column counts code points.
-/

namespace Bugs

/-- The class of a token. -/
inductive TokenKind where
  | number
  | name
  | keyword
  | symbol
  | endOfLine
  | endOfInput
  | quoted
  /-- A class that no program text produces; a token list from elsewhere may hold it. -/
  | other (label : String)
deriving Repr, DecidableEq

/-- The written form of a token class. -/
def TokenKind.label : TokenKind → String
  | number => "NUMBER"
  | name => "NAME"
  | keyword => "KEYWORD"
  | symbol => "SYMBOL"
  | endOfLine => "EOL"
  | endOfInput => "EOF"
  | quoted => "QUOTED"
  | other label => label

/-- Reads the written form of a token class; an unknown form is a class of its own. -/
def TokenKind.ofLabel (label : String) : TokenKind :=
  [number, name, keyword, symbol, endOfLine, endOfInput, quoted].find? (·.label == label)
    |>.getD (other label)

/-- A classified piece of a program text. -/
structure Token where
  kind : TokenKind
  text : String
  line : Int
  column : Int
deriving Repr, DecidableEq

/-- What a reader asks of one token: its class and, where given, its exact text. -/
structure TokenTest where
  kind : TokenKind
  text : Option String
deriving Repr, DecidableEq

/-- A test without a text accepts every token of its class. -/
def TokenTest.accepts (test : TokenTest) (token : Token) : Bool :=
  token.kind = test.kind && (test.text.isNone || test.text = some token.text)

end Bugs
