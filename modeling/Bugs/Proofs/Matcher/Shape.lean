import Bugs.Rule.Matcher

/-!
# The shape of a matcher

What a matcher can do in general is read off its shape: whether it may match without reading,
whether it may fail to match, which tests decide its first token, which nonterminals it calls
before it has read anything. Each of these is a function by recursion over the matcher. A
nonterminal has the first tests of its matcher (`Rule.first_eq`), and the nonterminals have a
rank that drops with every call before a token is read (`Rule.rank_lt_of_mem_lead`), which is what
recursion over the nonterminals goes by.

The checks of this file are evaluated on the matchers of all nonterminals. They are the only
place where the proofs look at the matchers one by one.

## Main definitions

* `Matcher.nullable`, `Matcher.sure`, `Matcher.drops`: how a matcher may end.
* `Matcher.first`, `Matcher.starts`: the tests on its first token.
* `Matcher.clean`, `Matcher.prompt`, `Matcher.tidy`: how the first token decides, and what is left
  behind otherwise.
* `Matcher.lead`, `Matcher.needs`, `Rule.rank`: calls of nonterminals.
-/

namespace Bugs

/-- Two tests that no token passes both. -/
def TokenTest.apart (test other : TokenTest) : Bool :=
  test.kind ≠ other.kind ||
    (test.text.isSome && other.text.isSome && test.text ≠ other.text)

theorem TokenTest.apart.not_accepts {test other : TokenTest} {t : Token}
    (h : test.apart other = true) (ht : test.accepts t = true) : other.accepts t = false := by
  obtain ⟨kind, text⟩ := test
  obtain ⟨kind', text'⟩ := other
  cases text <;> cases text' <;> simp_all [TokenTest.apart, TokenTest.accepts]
  intro hk h'
  exact h.elim (fun h ↦ h hk) fun h ↦ h h'.symm

/-- The token is a sign. -/
def Token.isSign (token : Token) : Bool :=
  TokenTest.accepts ⟨.symbol, some "+"⟩ token || TokenTest.accepts ⟨.symbol, some "-"⟩ token

/-- The nonterminals that may drop a sign and then not match. -/
def Rule.dropsSign (rule : Rule) : Bool :=
  rule = .expression || rule = .arithmeticExpression

/-- The nonterminals that are committed, or not, by their first token alone. -/
def Rule.prompt (rule : Rule) : Bool :=
  rule ∉ [.expression, .arithmeticExpression, .functionDefinition, .functionCall, .comparator]

/-- A height of nonterminals: a nonterminal stands above those that it calls first and above
those that it cannot do without. -/
def Rule.rank : Rule → Nat
  | variableName | addOperator | multiplyOperator | comparator | eolGroup | parameterList => 0
  | unsignedFactor | functionCall | block | switchStatement | doStatement | colorStatement
  | varDeclaration | allbugsCode => 1
  | factor | loopStatement | initializationBlock | functionDefinition => 2
  | term => 3
  | arithmeticExpression => 4
  | expression => 5
  | moveAction | moveToAction | turnAction | turnToAction | lineAction | assignmentStatement
  | exitIfStatement | returnStatement => 6
  | action | statement => 7
  | command => 8
  | bugDefinition => 9
  | program => 10

namespace Matcher

/-! ### How a matcher may end -/

/-- The matcher may match without reading a token. -/
def nullable : Matcher → Bool
  | token _ | keyword _ | rule _ => false
  | announce _ | optional _ | many _ => true
  | both a b => a.nullable && b.nullable
  | either a b => a.nullable || b.nullable
  | must m _ | rewind m | rewindSign m => m.nullable

/-- The matcher matches or fails, but never tells that it does not match. -/
def sure : Matcher → Bool
  | token _ | keyword _ | rule _ => false
  | announce _ | must _ _ | optional _ | many _ => true
  | both a b => a.sure && b.sure
  | either _ b => b.sure
  | rewind m | rewindSign m => m.sure

/-- The matcher may drop a sign and then not match. -/
def drops : Matcher → Bool
  | rule name => name.dropsSign
  | both a _ => a.drops
  | rewindSign _ => true
  | _ => false

/-! ### The first token -/

/-- The tests on the first token of a matcher, given those of the nonterminals. -/
def firstWith (of : Rule → List TokenTest) : Matcher → List TokenTest
  | token test => [test]
  | keyword word => [⟨.keyword, word⟩]
  | announce _ => []
  | rule name => of name
  | both a b => a.firstWith of ++ if a.nullable then b.firstWith of else []
  | either a b => a.firstWith of ++ b.firstWith of
  | must m _ | optional m | many m | rewind m | rewindSign m => m.firstWith of

/-- The matcher tests for no end of the input and calls no program. -/
def plain : Matcher → Bool
  | token test => test.kind ≠ .endOfInput
  | keyword _ | announce _ => true
  | rule name => name ≠ .program
  | both a b | either a b => a.plain && b.plain
  | must m _ | optional m | many m | rewind m | rewindSign m => m.plain

/-- The nonterminals that a matcher may call before it has read a token. -/
def lead : Matcher → List Rule
  | token _ | keyword _ | announce _ => []
  | rule name => [name]
  | both a b => a.lead ++ if a.nullable then b.lead else []
  | either a b => a.lead ++ b.lead
  | must m _ | optional m | many m | rewind m | rewindSign m => m.lead

/-- The nonterminals that occur in what a matcher reads at least. -/
def needs : Matcher → List Rule
  | token _ | keyword _ | announce _ | optional _ | many _ => []
  | rule name => [name]
  | both a b => a.needs ++ b.needs
  | either a _ => a.needs
  | must m _ | rewind m | rewindSign m => m.needs

end Matcher

/-- The tests on the first token of a nonterminal, found within a number of nested calls. -/
def Rule.firstWithin : Nat → Rule → List TokenTest
  | 0, _ => []
  | depth + 1, rule => rule.matcher.firstWith (Rule.firstWithin depth)

/-- The tests on the first token of a nonterminal. -/
def Rule.first (rule : Rule) : List TokenTest :=
  rule.firstWithin 11

namespace Matcher

/-- The tests on the first token of a matcher. -/
def first (m : Matcher) : List TokenTest :=
  m.firstWith Rule.first

/-- The matcher may go on at the token. -/
def starts (m : Matcher) (t : Token) : Bool :=
  m.first.any (·.accepts t)

@[simp] theorem starts_token (test : TokenTest) (t : Token) :
    (token test).starts t = test.accepts t := by
  simp [starts, first, firstWith]

@[simp] theorem starts_keyword (word : Option String) (t : Token) :
    (keyword word).starts t = TokenTest.accepts ⟨.keyword, word⟩ t := by
  simp [starts, first, firstWith]

@[simp] theorem starts_both (a b : Matcher) (t : Token) :
    (both a b).starts t = (a.starts t || (a.nullable && b.starts t)) := by
  cases h : a.nullable <;> simp [starts, first, firstWith, h]

@[simp] theorem starts_either (a b : Matcher) (t : Token) :
    (either a b).starts t = (a.starts t || b.starts t) := by
  simp [starts, first, firstWith]

@[simp] theorem starts_must (m : Matcher) (c : Complaint) (t : Token) :
    (must m c).starts t = m.starts t := rfl

@[simp] theorem starts_optional (m : Matcher) (t : Token) :
    (optional m).starts t = m.starts t := rfl

@[simp] theorem starts_many (m : Matcher) (t : Token) :
    (many m).starts t = m.starts t := rfl

@[simp] theorem starts_rewind (m : Matcher) (t : Token) :
    (rewind m).starts t = m.starts t := rfl

@[simp] theorem starts_rewindSign (m : Matcher) (t : Token) :
    (rewindSign m).starts t = m.starts t := rfl

/-- At a token where it cannot go on, the matcher does not complain. -/
def clean : Matcher → Bool
  | token _ | keyword _ | announce _ | rule _ => true
  | both a b => a.clean && (!a.nullable || b.clean)
  | either a b => a.clean && b.clean
  | must _ _ => false
  | optional m | rewind m | rewindSign m => m.clean
  | many m => m.clean && !m.nullable

/-- The matcher tells that it does not match only at a token where it cannot go on. -/
def prompt : Matcher → Bool
  | token _ | keyword _ | announce _ | must _ _ | optional _ | many _ => true
  | rule name => name.prompt
  | both a b => a.prompt && !a.nullable && b.sure
  | either a b => a.prompt && b.prompt
  | rewind _ | rewindSign _ => false

/-- Where the matcher does not match, it has read nothing, a dropped sign apart. -/
def tidy : Matcher → Bool
  | token _ | keyword _ | announce _ | rule _ | must _ _ | optional _ | many _ | rewind _ => true
  | both a b => a.tidy && b.sure
  | either a b => a.tidy && b.tidy && !a.drops && !b.drops
  | rewindSign m => m = both (optional Rule.sign) (rule .term)

/-- All parts that a run goes on after, although they did not match, are tidy. No part that a
run goes on after reads the end of the input, and the laps of every loop read something. -/
def regular : Matcher → Bool
  | token _ | keyword _ | announce _ | rule _ => true
  | both a b => a.regular && b.regular && a.plain
  | either a b => a.regular && b.regular && a.tidy && !a.drops
  | must m _ | optional m => m.regular && m.tidy
  | many m => m.regular && m.tidy && !m.drops && !m.nullable && m.plain
  | rewind m | rewindSign m => m.regular

end Matcher

/-! ### The nonterminals -/

namespace Rule

@[elab_as_elim]
theorem of_all {motive : Rule → Prop} (h : ∀ rule ∈ all, motive rule) (rule : Rule) : motive rule :=
  h rule rule.mem_all

variable (rule : Rule)

/-- What the matchers of the nonterminals have in common, found by evaluation. -/
theorem shape :
    rule.first = rule.matcher.first ∧ rule.matcher.tidy = true ∧ rule.matcher.regular = true ∧
      (rule ≠ .program → rule.matcher.plain = true) ∧
      (rule.prompt = true → rule.matcher.prompt = true) ∧
      (∀ other ∈ rule.matcher.lead, other.rank < rule.rank) ∧
      (∀ other ∈ rule.matcher.needs, other.rank < rule.rank) ∧ rule.rank ≤ 10 :=
  of_all (by decide +kernel) rule

theorem first_eq : rule.first = rule.matcher.first :=
  rule.shape.1

@[simp] theorem starts_matcher (t : Token) :
    rule.matcher.starts t = (Matcher.rule rule).starts t := by
  rw [Matcher.starts, ← rule.first_eq]
  rfl

theorem nullable_matcher : rule.matcher.nullable = false := by
  cases rule <;> rfl

theorem drops_matcher : rule.matcher.drops = rule.dropsSign := by
  cases rule <;> rfl

theorem clean_matcher : rule.matcher.clean = true := by
  cases rule <;> rfl

theorem tidy_matcher : rule.matcher.tidy = true :=
  rule.shape.2.1

theorem regular_matcher : rule.matcher.regular = true :=
  rule.shape.2.2.1

theorem plain_matcher (h : rule ≠ .program) : rule.matcher.plain = true := by
  obtain ⟨-, -, -, hplain, -⟩ := rule.shape
  exact hplain h

theorem prompt_matcher (h : rule.prompt = true) : rule.matcher.prompt = true := by
  obtain ⟨-, -, -, -, hprompt, -⟩ := rule.shape
  exact hprompt h

theorem rank_lt_of_mem_lead {rule other : Rule} (h : other ∈ rule.matcher.lead) :
    other.rank < rule.rank := by
  obtain ⟨-, -, -, -, -, hlead, -⟩ := rule.shape
  exact hlead other h

theorem rank_lt_of_mem_needs {rule other : Rule} (h : other ∈ rule.matcher.needs) :
    other.rank < rule.rank := by
  obtain ⟨-, -, -, -, -, -, hneeds, -⟩ := rule.shape
  exact hneeds other h

theorem rank_le : rule.rank ≤ 10 := by
  obtain ⟨-, -, -, -, -, -, -, hrank⟩ := rule.shape
  exact hrank

end Rule

end Bugs
