import Bugs.Rule
import Bugs.Token

/-!
# The grammar of the Bugs language

The grammar gives each nonterminal one production in extended form: sequences, choices,
optional parts and repetitions of terminals and nonterminals. It says which token lists a
nonterminal derives and knows nothing of how they are recognized. The lenient grammar has
one alternative more: a parameter list that holds a lone sign.

## Main definitions

* `Phrase`: the right-hand side of a production.
* `Rule.production`: the productions.
* `Derives`: the token lists that a phrase derives.
-/

namespace Bugs

/-- A single token of a production. -/
inductive Terminal where
  | number
  | name
  | keyword (word : String)
  | anyKeyword
  | symbol (text : String)
  | endOfLine
  | endOfInput
deriving Repr, DecidableEq

/-- Whether a token stands for a terminal: the class decides, and for a keyword or a symbol
the text as well. -/
def Terminal.admits (token : Token) : Terminal → Bool
  | number => token.kind = .number
  | name => token.kind = .name
  | keyword word => token.kind = .keyword && token.text = word
  | anyKeyword => token.kind = .keyword
  | symbol text => token.kind = .symbol && token.text = text
  | endOfLine => token.kind = .endOfLine
  | endOfInput => token.kind = .endOfInput

/-- The right-hand side of a production. -/
inductive Phrase where
  | terminal (terminal : Terminal)
  | nonterminal (rule : Rule)
  | sequence (first second : Phrase)
  | choice (first second : Phrase)
  | option (phrase : Phrase)
  | repetition (phrase : Phrase)
deriving Repr, DecidableEq

namespace Phrase

instance : Append Phrase := ⟨sequence⟩

instance : OrElse Phrase := ⟨fun first second ↦ choice first (second ())⟩

/-- A keyword of a production. -/
def word (text : String) : Phrase :=
  terminal (.keyword text)

/-- A symbol of a production. -/
def mark (text : String) : Phrase :=
  terminal (.symbol text)

/-- A line end. -/
def eol : Phrase :=
  terminal .endOfLine

/-- A name. -/
def identifier : Phrase :=
  terminal .name

/-- A comma-separated list. -/
def listOf (item : Phrase) : Phrase :=
  item ++ repetition (mark "," ++ item)

/-- Either sign. -/
def sign : Phrase :=
  mark "+" <|> mark "-"

end Phrase

open Phrase in
/-- The production of a nonterminal. -/
def Rule.production : Rule → Phrase
  | program =>
    option (nonterminal allbugsCode) ++ (nonterminal bugDefinition ++
      (repetition (nonterminal bugDefinition) ++ terminal .endOfInput))
  | allbugsCode =>
    word "Allbugs" ++ (mark "\x7b" ++ (eol ++ (repetition (nonterminal varDeclaration) ++
      (repetition (nonterminal functionDefinition) ++ (mark "\x7d" ++ eol)))))
  | bugDefinition =>
    word "Bug" ++ (identifier ++ (mark "\x7b" ++ (eol ++
      (repetition (nonterminal varDeclaration) ++ (option (nonterminal initializationBlock) ++
        (nonterminal command ++ (repetition (nonterminal command) ++
          (repetition (nonterminal functionDefinition) ++ (mark "\x7d" ++ eol)))))))))
  | varDeclaration => word "var" ++ (listOf identifier ++ eol)
  | initializationBlock => word "initially" ++ nonterminal block
  | functionDefinition =>
    word "define" ++ (identifier ++
      (option (word "using" ++ listOf (nonterminal variableName)) ++ nonterminal block))
  | command => nonterminal action <|> nonterminal statement
  | statement =>
    nonterminal assignmentStatement <|> nonterminal loopStatement <|>
      nonterminal exitIfStatement <|> nonterminal switchStatement <|>
      nonterminal returnStatement <|> nonterminal doStatement <|> nonterminal colorStatement
  | assignmentStatement =>
    nonterminal variableName ++ (mark "=" ++ (nonterminal expression ++ eol))
  | loopStatement => word "loop" ++ nonterminal block
  | exitIfStatement => word "exit" ++ (word "if" ++ (nonterminal expression ++ eol))
  | switchStatement =>
    word "switch" ++ (mark "\x7b" ++ (eol ++
      (repetition (word "case" ++ (nonterminal expression ++ (eol ++
        repetition (nonterminal command)))) ++ (mark "\x7d" ++ eol))))
  | returnStatement => word "return" ++ (nonterminal expression ++ eol)
  | doStatement =>
    word "do" ++ (nonterminal variableName ++ (option (nonterminal parameterList) ++ eol))
  | colorStatement => word "color" ++ (terminal .anyKeyword ++ eol)
  | block =>
    mark "\x7b" ++ (nonterminal eolGroup ++ (repetition (nonterminal command) ++
      (mark "\x7d" ++ nonterminal eolGroup)))
  | eolGroup => eol ++ repetition eol
  | action =>
    nonterminal moveAction <|> nonterminal moveToAction <|> nonterminal turnAction <|>
      nonterminal turnToAction <|> nonterminal lineAction
  | moveAction => word "move" ++ (nonterminal expression ++ eol)
  | moveToAction =>
    word "moveto" ++ (nonterminal expression ++ (mark "," ++ (nonterminal expression ++ eol)))
  | turnAction => word "turn" ++ (nonterminal expression ++ eol)
  | turnToAction => word "turnto" ++ (nonterminal expression ++ eol)
  | lineAction =>
    word "line" ++ (nonterminal expression ++ (mark "," ++ (nonterminal expression ++
      (mark "," ++ (nonterminal expression ++ (mark "," ++ (nonterminal expression ++ eol)))))))
  | expression =>
    nonterminal arithmeticExpression ++
      repetition (nonterminal comparator ++ nonterminal arithmeticExpression)
  | arithmeticExpression =>
    option sign ++ (nonterminal term ++
      repetition (nonterminal addOperator ++ nonterminal term))
  | term =>
    nonterminal factor ++ repetition (nonterminal multiplyOperator ++ nonterminal term)
  | factor => option sign ++ nonterminal unsignedFactor
  | unsignedFactor =>
    identifier ++ option (mark "." ++ identifier <|> nonterminal parameterList) <|>
      terminal .number <|>
      mark "(" ++ (nonterminal expression ++ mark ")")
  | parameterList => mark "(" ++ (option (listOf (nonterminal expression)) ++ mark ")")
  | functionCall => identifier ++ nonterminal parameterList
  | comparator =>
    mark "<" ++ option (mark "=") <|> mark ">" ++ option (mark "=") <|>
      mark "!" ++ mark "=" <|> mark "="
  | addOperator => sign
  | multiplyOperator => mark "*" <|> mark "/"
  | variableName => identifier

/-- The token lists that a phrase derives. In the lenient grammar a parameter list may
consist of a sign between its parentheses. -/
inductive Derives (lenient : Bool) : Phrase → List Token → Prop
  | terminal {t : Terminal} {token : Token} (h : t.admits token = true) :
      Derives lenient (.terminal t) [token]
  | nonterminal {rule : Rule} {w : List Token} (h : Derives lenient rule.production w) :
      Derives lenient (.nonterminal rule) w
  | loneSign {opening sign closing : Token} (hl : lenient = true)
      (ho : Terminal.admits opening (.symbol "(") = true)
      (hs : Terminal.admits sign (.symbol "+") = true ∨ Terminal.admits sign (.symbol "-") = true)
      (hc : Terminal.admits closing (.symbol ")") = true) :
      Derives lenient (.nonterminal .parameterList) [opening, sign, closing]
  | sequence {first second : Phrase} {v w : List Token} (hv : Derives lenient first v)
      (hw : Derives lenient second w) : Derives lenient (.sequence first second) (v ++ w)
  | first {first second : Phrase} {w : List Token} (h : Derives lenient first w) :
      Derives lenient (.choice first second) w
  | second {first second : Phrase} {w : List Token} (h : Derives lenient second w) :
      Derives lenient (.choice first second) w
  | absent {phrase : Phrase} : Derives lenient (.option phrase) []
  | present {phrase : Phrase} {w : List Token} (h : Derives lenient phrase w) :
      Derives lenient (.option phrase) w
  | done {phrase : Phrase} : Derives lenient (.repetition phrase) []
  | again {phrase : Phrase} {v w : List Token} (hv : Derives lenient phrase v)
      (hw : Derives lenient (.repetition phrase) w) :
      Derives lenient (.repetition phrase) (v ++ w)

/-- The token lists of a nonterminal. -/
def Rule.Derives (lenient : Bool) (rule : Rule) (w : List Token) : Prop :=
  Bugs.Derives lenient (.nonterminal rule) w

end Bugs
