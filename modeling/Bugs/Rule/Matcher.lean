import Bugs.Matcher

/-!
# The matcher of every nonterminal

Most constructs are committed by their first token: from there on a missing part is a
complaint. Four constructs look further before they commit. A function definition needs
its name, a function call its parameters and the comparator `!=` its second sign; they
rewind. A leading sign of an arithmetic expression that no term follows is dropped, unless
the options restore it.
-/

namespace Bugs.Rule

open Matcher

/-- A line end that closes a construct. -/
def closingLine (construct : Construct) : Matcher :=
  must endOfLine (.expected .endOfLine (.construct construct))

/-- A sign, or an operator of addition. -/
def sign : Matcher :=
  symbol "+" <|> symbol "-"

/-- Commas, each with an item that must follow it. -/
def furtherItems (item : Matcher) (part : Part) : Matcher :=
  many (both (symbol ",") (must item (.expected part (.quoted ","))))

/-- An expression of an action. -/
def operand (word : ActionWord) : Matcher :=
  must (rule .expression) (.actionExpression word)

/-- A comma and a further expression of an action. -/
def furtherOperand (word : ActionWord) : Matcher :=
  both (must (symbol ",") (.actionComma word)) (operand word)

/-- An action with one expression more than the given number of commas. -/
def actionWith (word : ActionWord) (commas : Nat) : Matcher :=
  (opening word.text (Construct.action word).text).andThen <|
    operand word :: List.replicate commas (furtherOperand word) ++ [closingLine (.action word)]

/-- The brace that opens a construct, and the line end behind it. -/
def openBrace (after : Landmark) : Matcher :=
  both (must (symbol "\x7b") (.expected .openBrace after))
    (must endOfLine (.expected .endOfLine .openBrace))

/-- The brace that closes a construct, and the line end behind it. -/
def closeBrace (construct : Construct) : Matcher :=
  both (must (symbol "\x7d") (.closeBrace construct)) (closingLine construct)

/-- The matcher of a nonterminal. -/
def matcher : Rule → Matcher
  | program =>
    (both (rule .allbugsCode)
        (must (rule .bugDefinition) (.expected .bugDefinition (.construct .allbugs)))
      <|> rule .bugDefinition).andThen
    [many (rule .bugDefinition),
      must endOfInput (.expected .endOfProgram .lastBug)]
  | allbugsCode => (opening "Allbugs" Construct.allbugs.text).andThen
    [openBrace .allbugsWord,
      many (rule .varDeclaration),
      many (rule .functionDefinition),
      closeBrace .allbugs]
  | bugDefinition => (opening "Bug" Construct.bug.text).andThen
    [must anyName (.expected .name (.quoted "Bug")),
      openBrace .bugName,
      many (rule .varDeclaration),
      optional (rule .initializationBlock),
      must (rule .command) .noCommand,
      many (rule .command),
      many (rule .functionDefinition),
      closeBrace .bug]
  | varDeclaration => (opening "var" Construct.declaration.text).andThen
    [must anyName (.expected .variableName (.quoted "var")),
      furtherItems anyName .variableName,
      closingLine .declaration]
  | initializationBlock => (opening "initially" Construct.initialization.text).andThen
    [must (rule .block) (.expected .block (.quoted "initially"))]
  | functionDefinition => (rewind (both (keyword (some "define")) anyName)).andThen
    [announce Construct.function.text,
      optional ((keyword (some "using")).andThen
        [must (rule .variableName) (.expected .parameterName (.quoted "using")),
          furtherItems (rule .variableName) .parameterName]),
      must (rule .block) .functionBody]
  | command => rule .action <|> rule .statement
  | statement =>
    rule .assignmentStatement <|> rule .loopStatement <|> rule .exitIfStatement <|>
      rule .switchStatement <|> rule .returnStatement <|> rule .doStatement <|>
      rule .colorStatement
  | assignmentStatement => (rule .variableName).andThen
    [must (symbol "=") .assignmentSign,
      must (rule .expression) (.expected .expression (.quoted "=")),
      closingLine .assignment]
  | loopStatement => (opening "loop" Construct.loop.text).andThen
    [must (rule .block) (.expected .block (.quoted "loop"))]
  | exitIfStatement => (opening "exit" Construct.exitIf.text).andThen
    [must (keyword (some "if")) (.expected (.word "if") (.quoted "exit")),
      must (rule .expression) (.expected .condition (.quoted "exit if")),
      closingLine .exitIf]
  | switchStatement => (opening "switch" Construct.switch.text).andThen
    [must (symbol "\x7b") (.expected .openBrace (.quoted "switch")),
      must endOfLine (.expected .endOfLine .switchBrace),
      many ((keyword (some "case")).andThen
        [must (rule .expression) .caseExpression,
          must endOfLine (.expected .endOfLine .caseExpression),
          many (rule .command)]),
      must (symbol "\x7d") .switchBrace,
      closingLine .switch]
  | returnStatement => (opening "return" Construct.returnStatement.text).andThen
    [must (rule .expression) (.expected .expression (.quoted "return")),
      closingLine .returnStatement]
  | doStatement => (opening "do" Construct.doStatement.text).andThen
    [must (rule .variableName) (.expected .functionName (.quoted "do")),
      optional (rule .parameterList),
      closingLine .doStatement]
  | colorStatement => (opening "color" Construct.color.text).andThen
    [must (keyword none) (.expected .colorName (.quoted "color")),
      closingLine .color]
  | block => (symbol "\x7b").andThen
    [must (rule .eolGroup) (.expected .endOfLine .openBrace),
      many (rule .command),
      must (symbol "\x7d") .blockCommand,
      must (rule .eolGroup) (.expected .endOfLine .closeBrace)]
  | eolGroup => both endOfLine (many endOfLine)
  | action =>
    rule .moveAction <|> rule .moveToAction <|> rule .turnAction <|> rule .turnToAction <|>
      rule .lineAction
  | moveAction => actionWith .move 0
  | moveToAction => actionWith .moveto 1
  | turnAction => actionWith .turn 0
  | turnToAction => actionWith .turnto 0
  | lineAction => actionWith .line 3
  | expression => (rule .arithmeticExpression).andThen
    [many (both (rule .comparator)
      (must (rule .arithmeticExpression) (.expected .arithmeticExpression .comparator)))]
  | arithmeticExpression => (rewindSign (both (optional sign) (rule .term))).andThen
    [many (both (rule .addOperator) (must (rule .term) (.expected .term .addOperator)))]
  | term => (rule .factor).andThen
    [many (both (rule .multiplyOperator)
      (must (rule .term) (.expected .term .multiplyOperator)))]
  | factor =>
    both sign (must (rule .unsignedFactor) (.expected .factor .sign)) <|> rule .unsignedFactor
  | unsignedFactor =>
    both (rule .variableName)
        (both (symbol ".") (must anyName (.expected .name (.quoted "."))) <|>
          optional (rule .parameterList))
      <|> anyNumber
      <|> (symbol "(").andThen
        [must (rule .expression) (.expected .expression (.quoted "(")),
          must (symbol ")") .unclosedParenthesis]
  | parameterList => (symbol "(").andThen
    [optional ((rule .expression).andThen [furtherItems (rule .expression) .expression]),
      must (symbol ")") .unclosedParameters]
  | functionCall => rewind (both anyName (rule .parameterList))
  | comparator =>
    both (symbol "<" <|> symbol ">") (optional (symbol "=")) <|>
      symbol "=" <|>
      rewind (both (symbol "!") (symbol "="))
  | addOperator => sign
  | multiplyOperator => symbol "*" <|> symbol "/"
  | variableName => anyName

end Bugs.Rule
