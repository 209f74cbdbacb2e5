import Bugs.Report
import Bugs.Json
import Bugs.Token

/-!
# What a committed construct lacks

Once a construct is committed, a missing part is a fatal complaint. A complaint names the
part and where it was due; its wording is fixed here and nowhere else. A diagnostic is a
complaint with the token at which it arose.
-/

namespace Bugs

/-- The actions of a bug, by their keyword. -/
inductive ActionWord where
  | move
  | moveto
  | turn
  | turnto
  | line
deriving Repr, DecidableEq

/-- The keyword of an action. -/
def ActionWord.text : ActionWord → String
  | move => "move"
  | moveto => "moveto"
  | turn => "turn"
  | turnto => "turnto"
  | line => "line"

/-- The constructs that end in a line end of their own or announce that they begin. -/
inductive Construct where
  | action (word : ActionWord)
  | assignment
  | loop
  | exitIf
  | switch
  | returnStatement
  | doStatement
  | color
  | allbugs
  | bug
  | declaration
  | initialization
  | function
deriving Repr, DecidableEq

/-- The name of a construct. -/
def Construct.text : Construct → String
  | action word => word.text ++ " action"
  | assignment => "assignment statement"
  | loop => "loop statement"
  | exitIf => "exit if statement"
  | switch => "switch statement"
  | returnStatement => "return statement"
  | doStatement => "do statement"
  | color => "color statement"
  | allbugs => "Allbugs block"
  | bug => "Bug definition"
  | declaration => "var declaration"
  | initialization => "initialization block"
  | function => "function definition"

/-- The parts that a construct may lack. -/
inductive Part where
  | arithmeticExpression
  | expression
  | term
  | factor
  | condition
  | name
  | variableName
  | parameterName
  | functionName
  | colorName
  | word (text : String)
  | openBrace
  | endOfLine
  | block
  | bugDefinition
  | endOfProgram
deriving Repr, DecidableEq

/-- A part as a message names it. -/
def Part.text : Part → String
  | arithmeticExpression => "an arithmetic expression"
  | expression => "an expression"
  | term => "a term"
  | factor => "a factor"
  | condition => "a condition"
  | name => "a name"
  | variableName => "a variable name"
  | parameterName => "a parameter name"
  | functionName => "a function name"
  | colorName => "a color name"
  | word text => "'" ++ text ++ "'"
  | openBrace => "'\x7b'"
  | endOfLine => "end of line"
  | block => "a block"
  | bugDefinition => "a Bug definition"
  | endOfProgram => "end of program"

/-- The places after which a part is due. -/
inductive Landmark where
  /-- After a word or symbol, which the message quotes. -/
  | quoted (text : String)
  | openBrace
  | closeBrace
  /-- After the rest of a construct that a line end closes. -/
  | construct (ended : Construct)
  | comparator
  | sign
  | addOperator
  | multiplyOperator
  | allbugsWord
  | bugName
  | switchBrace
  | caseExpression
  | lastBug
deriving Repr, DecidableEq

/-- A place as a message names it. -/
def Landmark.text : Landmark → String
  | quoted text => "'" ++ text ++ "'"
  | openBrace => "'\x7b'"
  | closeBrace => "'\x7d'"
  | construct ended => "the " ++ ended.text
  | comparator => "the comparator"
  | sign => "unary '+' or '-'"
  | addOperator => "'+' or '-'"
  | multiplyOperator => "'*' or '/'"
  | allbugsWord => "Allbugs"
  | bugName => "the Bug name"
  | switchBrace => "the 'switch \x7b'"
  | caseExpression => "the case expression"
  | lastBug => "the last Bug definition"

/-- What a committed construct lacks. -/
inductive Complaint where
  /-- A part is due after something. -/
  | expected (part : Part) (after : Landmark)
  /-- A parenthesis around an expression is open. -/
  | unclosedParenthesis
  /-- A parameter list is open. -/
  | unclosedParameters
  /-- An action lacks its first or a further expression. -/
  | actionExpression (word : ActionWord)
  /-- Two expressions of an action stand without a comma. -/
  | actionComma (word : ActionWord)
  | assignmentSign
  | caseExpression
  | blockCommand
  | switchBrace
  | functionBody
  /-- The brace that closes a construct is missing. -/
  | closeBrace (construct : Construct)
  /-- A Bug definition holds no command. -/
  | noCommand
deriving Repr, DecidableEq

/-- The wording of a complaint. -/
def Complaint.message : Complaint → String
  | expected part after => "Expected " ++ part.text ++ " after " ++ after.text
  | unclosedParenthesis => "Unclosed parenthesized expression, expected ')'"
  | unclosedParameters => "Parameter list must end with ')'"
  | actionExpression word => "Incomplete " ++ word.text ++ " action, expected an expression"
  | actionComma word => "Expected ',' between the expressions of a " ++ word.text ++ " action"
  | assignmentSign => "Incomplete assignment statement, expected '='"
  | caseExpression => "Incomplete case, expected an expression"
  | blockCommand => "Incomplete block, expected a command or '\x7d'"
  | switchBrace => "Switch statement must end with '\x7d'"
  | functionBody => "Expected a block as the function body"
  | closeBrace construct => "Missing '\x7d' at the end of the " ++ construct.text
  | noCommand => "A Bug definition needs at least one command"

/-- A complaint with the token at which it arose. The column is known only while lines are
tracked. -/
structure Diagnostic where
  complaint : Complaint
  line : Int
  column : Option Int
  kind : TokenKind
  text : String
deriving Repr, DecidableEq

namespace Diagnostic

/-- The wording of the complaint. -/
def message (diagnostic : Diagnostic) : String :=
  diagnostic.complaint.message

/-- The diagnostic as a report on a program text. -/
def report (diagnostic : Diagnostic) : Report :=
  ⟨diagnostic.message, some diagnostic.line, diagnostic.column⟩

/-- The fields that identify the error and the token at which it arose. -/
def details (diagnostic : Diagnostic) : List (String × Json) :=
  [("error_id", .string "parse.syntax"), ("token_kind", .string diagnostic.kind.label),
    ("token_text", .string diagnostic.text)]

end Diagnostic

end Bugs
