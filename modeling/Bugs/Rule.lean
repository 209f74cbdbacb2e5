/-!
# The nonterminals of the Bugs grammar

Every construct of the language has a name under which it can be asked for.
-/

namespace Bugs

/-- The nonterminals of the grammar. -/
inductive Rule where
  | program
  | allbugsCode
  | bugDefinition
  | varDeclaration
  | initializationBlock
  | functionDefinition
  | command
  | statement
  | assignmentStatement
  | loopStatement
  | exitIfStatement
  | switchStatement
  | returnStatement
  | doStatement
  | colorStatement
  | block
  | eolGroup
  | action
  | moveAction
  | moveToAction
  | turnAction
  | turnToAction
  | lineAction
  | expression
  | arithmeticExpression
  | term
  | factor
  | unsignedFactor
  | parameterList
  | functionCall
  | comparator
  | addOperator
  | multiplyOperator
  | variableName
deriving Repr, DecidableEq

namespace Rule

/-- The name of a nonterminal. -/
def name : Rule → String
  | program => "program"
  | allbugsCode => "allbugs_code"
  | bugDefinition => "bug_definition"
  | varDeclaration => "var_declaration"
  | initializationBlock => "initialization_block"
  | functionDefinition => "function_definition"
  | command => "command"
  | statement => "statement"
  | assignmentStatement => "assignment_statement"
  | loopStatement => "loop_statement"
  | exitIfStatement => "exit_if_statement"
  | switchStatement => "switch_statement"
  | returnStatement => "return_statement"
  | doStatement => "do_statement"
  | colorStatement => "color_statement"
  | block => "block"
  | eolGroup => "eol_group"
  | action => "action"
  | moveAction => "move_action"
  | moveToAction => "move_to_action"
  | turnAction => "turn_action"
  | turnToAction => "turn_to_action"
  | lineAction => "line_action"
  | expression => "expression"
  | arithmeticExpression => "arithmetic_expression"
  | term => "term"
  | factor => "factor"
  | unsignedFactor => "unsigned_factor"
  | parameterList => "parameter_list"
  | functionCall => "function_call"
  | comparator => "comparator"
  | addOperator => "add_operator"
  | multiplyOperator => "multiply_operator"
  | variableName => "variable"

/-- All nonterminals, from the whole program down to single tokens. -/
def all : List Rule :=
  [program, allbugsCode, bugDefinition, varDeclaration, initializationBlock, functionDefinition,
    command, statement, assignmentStatement, loopStatement, exitIfStatement, switchStatement,
    returnStatement, doStatement, colorStatement, block, eolGroup, action, moveAction,
    moveToAction, turnAction, turnToAction, lineAction, expression, arithmeticExpression, term,
    factor, unsignedFactor, parameterList, functionCall, comparator, addOperator,
    multiplyOperator, variableName]

/-- The nonterminal of a name. -/
def ofName? (name : String) : Option Rule :=
  all.find? (·.name = name)

theorem mem_all (rule : Rule) : rule ∈ all := by
  cases rule <;> decide

end Rule

end Bugs
