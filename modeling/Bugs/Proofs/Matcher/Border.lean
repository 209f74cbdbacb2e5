import Bugs.Proofs.Matcher.Shape

/-!
# The border of a match

Where a matcher stops is decided by the tokens around that place. The tests of
`Matcher.further` tell the tokens behind a match at which the matcher would have gone on, and a
matcher is predictive if at every place inside it such a token is told apart from the ones that
come next. All nonterminals but two are predictive: in a term the operators of the loop also
continue the term inside the loop, and in an arithmetic expression the optional sign may also be
the sign of the first factor. The tests of `Matcher.last` are those on the last token of a match.

A matcher looks at the token where it stops, and it looks at the one behind it only in the
parts that go back to where they began. The tests of `Matcher.glances` tell the tokens at which
this may happen. No nonterminal glances behind the last token of a match (`Rule.last_apart`).

## Main definitions

* `Matcher.further`, `Matcher.predictive`: the tokens behind a match.
* `Matcher.last`: the last token of a match.
* `Matcher.glances`, `Matcher.modest`: the tokens at which a matcher looks at a second one.
-/

namespace Bugs

/-- Tests of two lists are apart. -/
def testsApart (tests others : List TokenTest) : Bool :=
  tests.all fun test ↦ others.all test.apart

/-- The token passes one of the tests. -/
def Token.passes (t : Token) (tests : List TokenTest) : Bool :=
  tests.any (·.accepts t)

theorem Token.passes_eq_false {t : Token} {tests : List TokenTest} :
    t.passes tests = false ↔ ∀ test ∈ tests, test.accepts t = false := by
  simp [passes]

@[simp] theorem Token.passes_append (t : Token) (tests others : List TokenTest) :
    t.passes (tests ++ others) = (t.passes tests || t.passes others) :=
  List.any_append

theorem Token.passes_of_subset {t : Token} {tests others : List TokenTest}
    (hsub : ∀ test ∈ tests, test ∈ others) (h : t.passes tests = true) :
    t.passes others = true := by
  obtain ⟨test, hm, ht⟩ := List.any_eq_true.mp h
  exact List.any_eq_true.mpr ⟨test, hsub test hm, ht⟩

theorem Token.passes_eq_false_of_subset {t : Token} {tests others : List TokenTest}
    (hsub : ∀ test ∈ tests, test ∈ others) (h : t.passes others = false) :
    t.passes tests = false :=
  Bool.eq_false_iff.mpr fun ht ↦ Bool.eq_false_iff.mp h (passes_of_subset hsub ht)

theorem Token.passes_of_apart {t : Token} {tests others : List TokenTest}
    (h : testsApart tests others = true) (ht : t.passes others = true) :
    t.passes tests = false := by
  rw [passes_eq_false]
  intro test hm
  obtain ⟨other, ho, ht⟩ := List.any_eq_true.mp ht
  have hap : test.apart other = true := List.all_eq_true.mp (List.all_eq_true.mp h test hm) other ho
  cases hacc : test.accepts t with
  | false => rfl
  | true => exact ht.symm.trans (TokenTest.apart.not_accepts hap hacc)

theorem Matcher.starts_eq_passes (m : Matcher) (t : Token) : m.starts t = t.passes m.first := rfl

theorem Token.isSign_eq_passes (t : Token) : t.isSign = t.passes Rule.sign.first := by
  change _ = (Matcher.either (Matcher.symbol "+") (Matcher.symbol "-")).starts t
  rw [Matcher.starts_either, Matcher.symbol, Matcher.starts_token, Matcher.symbol,
    Matcher.starts_token]
  rfl

/-! ### Behind a match -/

/-- The tests on a token behind a match of a nonterminal at which it would have gone on. -/
def Rule.further : Rule → List TokenTest
  | comparator => [⟨.symbol, some "="⟩]
  | unsignedFactor | factor => [⟨.symbol, some "."⟩, ⟨.symbol, some "("⟩]
  | term =>
    [⟨.symbol, some "."⟩, ⟨.symbol, some "("⟩, ⟨.symbol, some "*"⟩, ⟨.symbol, some "/"⟩]
  | arithmeticExpression =>
    [⟨.symbol, some "."⟩, ⟨.symbol, some "("⟩, ⟨.symbol, some "*"⟩, ⟨.symbol, some "/"⟩,
      ⟨.symbol, some "+"⟩, ⟨.symbol, some "-"⟩]
  | expression =>
    [⟨.symbol, some "."⟩, ⟨.symbol, some "("⟩, ⟨.symbol, some "*"⟩, ⟨.symbol, some "/"⟩,
      ⟨.symbol, some "+"⟩, ⟨.symbol, some "-"⟩, ⟨.symbol, some "<"⟩, ⟨.symbol, some ">"⟩,
      ⟨.symbol, some "="⟩, ⟨.symbol, some "!"⟩]
  | eolGroup | block | loopStatement | statement | command | initializationBlock
  | functionDefinition => [⟨.endOfLine, none⟩]
  | _ => []

/-- The tests on the last token of a nonterminal. -/
def Rule.last : Rule → List TokenTest
  | program => [⟨.endOfInput, none⟩]
  | expression | arithmeticExpression | term | factor | unsignedFactor =>
    [⟨.name, none⟩, ⟨.number, none⟩, ⟨.symbol, some ")"⟩]
  | parameterList | functionCall => [⟨.symbol, some ")"⟩]
  | comparator =>
    [⟨.symbol, some "<"⟩, ⟨.symbol, some ">"⟩, ⟨.symbol, some "="⟩]
  | addOperator => [⟨.symbol, some "+"⟩, ⟨.symbol, some "-"⟩]
  | multiplyOperator => [⟨.symbol, some "*"⟩, ⟨.symbol, some "/"⟩]
  | variableName => [⟨.name, none⟩]
  | _ => [⟨.endOfLine, none⟩]

namespace Matcher

/-- The tests on a token behind a match at which the matcher would have gone on. -/
def further : Matcher → List TokenTest
  | token _ | keyword _ | announce _ => []
  | rule name => name.further
  | both a b => b.further ++ if b.nullable then a.further else []
  | either a b => a.further ++ b.further ++ if b.nullable then a.first else []
  | must m _ | rewind m | rewindSign m => m.further
  | optional m | many m => m.further ++ m.first

/-- The next token tells which part of the matcher comes next. -/
def predictive : Matcher → Bool
  | token _ | keyword _ | announce _ | rule _ => true
  | both a b => a.predictive && b.predictive && testsApart a.further b.first
  | either a b =>
    a.predictive && b.predictive && a.clean && !a.nullable && testsApart a.first b.first
  | must m _ | rewind m | rewindSign m => m.predictive
  | optional m => m.predictive && m.clean && !m.nullable
  | many m => m.predictive && m.clean && !m.nullable && testsApart m.further m.first

/-- The tests on the last token of a match. -/
def last : Matcher → List TokenTest
  | token test => [test]
  | keyword word => [⟨.keyword, word⟩]
  | announce _ => []
  | rule name => name.last
  | both a b => b.last ++ if b.nullable then a.last else []
  | either a b => a.last ++ b.last
  | must m _ | many m | rewind m | rewindSign m => m.last
  | optional m => m.last ++ if m.drops then Rule.sign.first else []

end Matcher

/-! ### Glances behind the next token -/

/-- The tests on a token where a nonterminal may look at the token behind it. -/
def Rule.glances (restore : Bool) : Rule → List TokenTest
  | addOperator | multiplyOperator | variableName | eolGroup | colorStatement => []
  | rule =>
    [⟨.keyword, some "define"⟩, ⟨.symbol, some "!"⟩] ++
      (if restore then Rule.sign.first else []) ++
      if rule = functionCall then [⟨.name, none⟩] else []

namespace Matcher

/-- The matcher reads one token. -/
def single : Matcher → Bool
  | token _ | keyword _ => true
  | _ => false

/-- The tests on a token where the matcher stops and may have looked at the one behind it. -/
def glances (restore : Bool) : Matcher → List TokenTest
  | token _ | keyword _ | announce _ => []
  | rule name => name.glances restore
  | both a b | either a b => a.glances restore ++ b.glances restore
  | must m _ | optional m | many m => m.glances restore
  | rewind m => m.glances restore ++ m.first
  | rewindSign m => m.glances restore ++ if restore then Rule.sign.first else []

/-- Where the matcher goes back to, it goes back over one token. -/
def modest : Matcher → Bool
  | token _ | keyword _ | announce _ | rule _ => true
  | both a b | either a b => a.modest && b.modest
  | must m _ | optional m | many m => m.modest
  | rewind (both a b) =>
    (both a b).modest && a.single && b.prompt && b.clean && !b.nullable
  | rewind _ => false
  | rewindSign m => m = both (optional Rule.sign) (rule .term)

end Matcher

/-! ### The nonterminals -/

namespace Rule

/-- What the borders of the matchers have in common, found by evaluation. -/
theorem border (rule : Rule) :
    (rule ≠ .term → rule ≠ .arithmeticExpression → rule.matcher.predictive = true) ∧
      rule.matcher.modest = true ∧
      (∀ test ∈ rule.matcher.further, test ∈ rule.further) ∧
      (∀ test ∈ rule.matcher.last, test ∈ rule.last) ∧
      (∀ restore, ∀ test ∈ rule.matcher.glances restore, test ∈ rule.glances restore) ∧
      (∀ restore, testsApart (rule.glances restore) rule.last = true) ∧
      (∀ test ∈ rule.first ++ rule.further, test.kind ≠ .endOfInput) :=
  of_all (by decide +kernel) rule

/-- All nonterminals but terms and arithmetic expressions are predictive. -/
theorem predictive_matcher {rule : Rule} (ht : rule ≠ .term) (ha : rule ≠ .arithmeticExpression) :
    rule.matcher.predictive = true :=
  rule.border.1 ht ha

theorem modest_matcher (rule : Rule) : rule.matcher.modest = true :=
  rule.border.2.1

theorem further_matcher (rule : Rule) : ∀ test ∈ rule.matcher.further, test ∈ rule.further :=
  rule.border.2.2.1

theorem last_matcher (rule : Rule) : ∀ test ∈ rule.matcher.last, test ∈ rule.last := by
  obtain ⟨-, -, -, hlast, -⟩ := rule.border
  exact hlast

theorem glances_matcher (restore : Bool) (rule : Rule) :
    ∀ test ∈ rule.matcher.glances restore, test ∈ rule.glances restore := by
  obtain ⟨-, -, -, -, hglances, -⟩ := rule.border
  exact hglances restore

/-- Where a nonterminal glances behind a token, that token is not its last one. -/
theorem last_apart (restore : Bool) (rule : Rule) :
    testsApart (rule.glances restore) rule.last = true := by
  obtain ⟨-, -, -, -, -, hapart, -⟩ := rule.border
  exact hapart restore

theorem passes_of_kind (rule : Rule) {t : Token} (h : t.kind = .endOfInput) :
    t.passes (rule.first ++ rule.further) = false := by
  obtain ⟨-, -, -, -, -, -, hkind⟩ := rule.border
  rw [Token.passes_eq_false]
  intro test hm
  simp [TokenTest.accepts, h, (hkind test hm).symm]

theorem starts_of_kind (rule : Rule) {t : Token} (h : t.kind = .endOfInput) :
    (Matcher.rule rule).starts t = false :=
  Token.passes_eq_false_of_subset (fun _ ↦ List.mem_append_left _) (rule.passes_of_kind h)

theorem passes_further_of_kind (rule : Rule) {t : Token} (h : t.kind = .endOfInput) :
    t.passes rule.further = false :=
  Token.passes_eq_false_of_subset (fun _ ↦ List.mem_append_right _) (rule.passes_of_kind h)

end Rule

end Bugs
