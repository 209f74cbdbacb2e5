import Bugs.Grammar
import Bugs.Proofs.Matcher.Refusal
import Mathlib.Computability.Language
import Mathlib.Order.CompletePartialOrder
import Mathlib.Tactic.Abel

/-!
# The languages of phrases and matchers

Phrases and matchers are read as languages over tokens, in the Kleene algebra of languages: a
sequence is a product, a choice a sum and a repetition a star. A phrase or a matcher has a
language for every choice `L` of languages of the nonterminals, and for every such choice the
matcher of a nonterminal has the language of its production, with the alternative of the lenient
grammar where signs are dropped (`Rule.language_matcher`). The languages of the grammar are the
least ones that are closed under the matchers (`Rule.language_le`), so a fact about all derivable
token lists needs to be checked on matchers only. In this way every derivable token list is seen
to begin with a first token of its nonterminal and, unless it is a program, to hold no end of the
input.

## Main definitions

* `Phrase.language`, `Matcher.language`: languages, given those of the nonterminals.
* `Rule.language`: the token lists that a nonterminal derives.

## Main results

* `Rule.language_matcher`, `Rule.language_le`.
* `Rule.nil_notMem_language`, `Rule.starts_of_mem`, `Rule.kind_ne_of_mem`,
  `Rule.exists_mem_language`.
-/

open scoped Computability

namespace Bugs

/-- The token lists that consist of one token that passes the test. -/
def TokenTest.language (test : TokenTest) : Language Token :=
  {w | ∃ t, test.accepts t = true ∧ w = [t]}

theorem TokenTest.mem_language {test : TokenTest} {w : List Token} :
    w ∈ test.language ↔ ∃ t, test.accepts t = true ∧ w = [t] := Iff.rfl

/-- The token lists that consist of one sign. -/
def signs : Language Token :=
  TokenTest.language ⟨.symbol, some "+"⟩ + TokenTest.language ⟨.symbol, some "-"⟩

theorem mem_signs {w : List Token} : w ∈ signs ↔ ∃ t : Token, t.isSign = true ∧ w = [t] := by
  simp only [signs, Language.mem_add, TokenTest.mem_language, Token.isSign, Bool.or_eq_true]
  constructor
  · rintro (⟨t, ht, rfl⟩ | ⟨t, ht, rfl⟩)
    · exact ⟨t, .inl ht, rfl⟩
    · exact ⟨t, .inr ht, rfl⟩
  · rintro ⟨t, ht | ht, rfl⟩
    · exact .inl ⟨t, ht, rfl⟩
    · exact .inr ⟨t, ht, rfl⟩

/-! ### Phrases -/

/-- The test that a terminal stands for. -/
def Terminal.test : Terminal → TokenTest
  | number => ⟨.number, none⟩
  | name => ⟨.name, none⟩
  | keyword word => ⟨.keyword, some word⟩
  | anyKeyword => ⟨.keyword, none⟩
  | symbol text => ⟨.symbol, some text⟩
  | endOfLine => ⟨.endOfLine, none⟩
  | endOfInput => ⟨.endOfInput, none⟩

theorem Terminal.accepts_test (terminal : Terminal) (token : Token) :
    terminal.test.accepts token = terminal.admits token := by
  cases terminal <;> simp [test, TokenTest.accepts, admits, eq_comm]

/-- The language of a phrase, given those of the nonterminals. -/
def Phrase.language (L : Rule → Language Token) : Phrase → Language Token
  | terminal t => t.test.language
  | nonterminal name => L name
  | sequence p q => p.language L * q.language L
  | choice p q => p.language L + q.language L
  | option p => 1 + p.language L
  | repetition p => (p.language L)∗

/-- The further alternative of the lenient grammar: a sign as a parameter list. -/
def Rule.loneSign (lenient : Bool) (rule : Rule) : Language Token :=
  if lenient ∧ rule = .parameterList then
    TokenTest.language ⟨.symbol, some "("⟩ * (signs * TokenTest.language ⟨.symbol, some ")"⟩)
  else 0

theorem Rule.mem_loneSign {lenient : Bool} {rule : Rule} {w : List Token} :
    w ∈ rule.loneSign lenient ↔ lenient = true ∧ rule = .parameterList ∧
      ∃ opening sign closing : Token, Terminal.admits opening (.symbol "(") = true ∧
        sign.isSign = true ∧ Terminal.admits closing (.symbol ")") = true ∧
        w = [opening, sign, closing] := by
  rw [loneSign]
  split
  · rename_i h
    simp only [h, true_and, ← Terminal.accepts_test]
    constructor
    · intro hw
      obtain ⟨_, ⟨opening, ho, rfl⟩, _, htail, rfl⟩ := Language.mem_mul.mp hw
      obtain ⟨_, hsign, _, ⟨closing, hc, rfl⟩, rfl⟩ := Language.mem_mul.mp htail
      obtain ⟨sign, hs, rfl⟩ := mem_signs.mp hsign
      exact ⟨opening, sign, closing, ho, hs, hc, rfl⟩
    · rintro ⟨opening, sign, closing, ho, hs, hc, rfl⟩
      exact Language.append_mem_mul (a := [opening]) ⟨_, ho, rfl⟩
        (Language.append_mem_mul (a := [sign]) (mem_signs.mpr ⟨_, hs, rfl⟩) ⟨_, hc, rfl⟩)
  · rename_i h
    exact ⟨fun hw ↦ absurd hw (Language.notMem_zero w), fun hw ↦ absurd ⟨hw.1, hw.2.1⟩ h⟩

/-- A sign is what either of the two terminals for signs admits. -/
theorem Token.isSign_iff {token : Token} : token.isSign = true ↔
    Terminal.admits token (.symbol "+") = true ∨ Terminal.admits token (.symbol "-") = true := by
  simp only [Token.isSign, Bool.or_eq_true, ← Terminal.accepts_test, Terminal.test]

/-- The token lists that a nonterminal derives. -/
def Rule.language (lenient : Bool) (rule : Rule) : Language Token :=
  {w | rule.Derives lenient w}

theorem Rule.mem_language {lenient : Bool} {rule : Rule} {w : List Token} :
    w ∈ rule.language lenient ↔ rule.Derives lenient w := Iff.rfl

/-- Whatever is derived lies in all languages that are closed under the productions. -/
private theorem Derives.mem_language {lenient : Bool} {L : Rule → Language Token}
    (hL : ∀ rule : Rule, rule.production.language L + rule.loneSign lenient ≤ L rule)
    {phrase : Phrase} {w : List Token} (h : Derives lenient phrase w) :
    w ∈ phrase.language L := by
  induction h with
  | terminal h => exact ⟨_, (Terminal.accepts_test ..).trans h, rfl⟩
  | @nonterminal rule _ _ ih => exact hL rule (.inl ih)
  | loneSign hl ho hs hc =>
    exact hL .parameterList (.inr (Rule.mem_loneSign.mpr
      ⟨hl, rfl, _, _, _, ho, Token.isSign_iff.mpr hs, hc, rfl⟩))
  | sequence _ _ ihv ihw => exact Language.append_mem_mul ihv ihw
  | first _ ih => exact .inl ih
  | second _ ih => exact .inr ih
  | absent => exact .inl rfl
  | present _ ih => exact .inr ih
  | done => exact Language.nil_mem_kstar _
  | again _ _ ihv ihw =>
    exact mul_kstar_le_kstar (α := Language Token) (Language.append_mem_mul ihv ihw)

/-- What the language of a phrase holds is derived from it. -/
private theorem Phrase.derives_of_mem {lenient : Bool} {phrase : Phrase} {w : List Token}
    (h : w ∈ phrase.language (Rule.language lenient)) : Derives lenient phrase w := by
  induction phrase generalizing w with
  | terminal t =>
    obtain ⟨token, ht, rfl⟩ := h
    exact .terminal ((t.accepts_test token).symm.trans ht)
  | nonterminal name => exact h
  | sequence p q ihp ihq =>
    obtain ⟨u, hu, v, hv, rfl⟩ := Language.mem_mul.mp h
    exact .sequence (ihp hu) (ihq hv)
  | choice p q ihp ihq =>
    rcases h with h | h
    · exact .first (ihp h)
    · exact .second (ihq h)
  | option p ih =>
    rcases h with h | h
    · obtain rfl : w = [] := h
      exact .absent
    · exact .present (ih h)
  | repetition p ih =>
    obtain ⟨parts, rfl, hparts⟩ := Language.mem_kstar.mp h
    clear h
    induction parts with
    | nil => exact .done
    | cons part parts ihparts =>
      rw [List.flatten_cons]
      rw [List.forall_mem_cons] at hparts
      exact .again (ih hparts.1) (ihparts hparts.2)

/-- The token lists of the nonterminals are closed under the productions. -/
theorem Rule.language_closed (lenient : Bool) (rule : Rule) :
    rule.production.language (Rule.language lenient) + rule.loneSign lenient ≤
      rule.language lenient := by
  rintro w (h | h)
  · exact .nonterminal (Phrase.derives_of_mem h)
  · obtain ⟨hl, rfl, opening, sign, closing, ho, hs, hc, rfl⟩ := Rule.mem_loneSign.mp h
    exact .loneSign hl ho (Token.isSign_iff.mp hs) hc

/-- A nonterminal derives what its production and its further alternative hold. -/
theorem Rule.language_eq (lenient : Bool) (rule : Rule) :
    rule.language lenient =
      rule.production.language (Rule.language lenient) + rule.loneSign lenient := by
  refine le_antisymm (fun w h ↦ ?_) (rule.language_closed lenient)
  cases (show Bugs.Derives lenient (.nonterminal rule) w from h) with
  | nonterminal h => exact .inl (h.mem_language (Rule.language_closed lenient))
  | loneSign hl ho hs hc =>
    exact .inr (Rule.mem_loneSign.mpr
      ⟨hl, rfl, _, _, _, ho, Token.isSign_iff.mpr hs, hc, rfl⟩)

/-! ### Matchers -/

/-- The language of a matcher, given those of the nonterminals. Where an optional part may drop
a sign, the sign is left in front of what follows. -/
def Matcher.language (lenient : Bool) (L : Rule → Language Token) : Matcher → Language Token
  | token test => test.language
  | keyword word => TokenTest.language ⟨.keyword, word⟩
  | announce _ => 1
  | rule name => L name
  | both a b => a.language lenient L * b.language lenient L
  | either a b => a.language lenient L + b.language lenient L
  | must m _ | rewind m | rewindSign m => m.language lenient L
  | optional m => 1 + m.language lenient L + if lenient ∧ m.drops then signs else 0
  | many m => (m.language lenient L)∗

section Evaluation

variable (lenient : Bool) (L : Rule → Language Token)

@[simp] theorem Phrase.language_append (p q : Phrase) :
    (p ++ q).language L = p.language L * q.language L := rfl

@[simp] theorem Phrase.language_orElse (p q : Phrase) :
    (p <|> q).language L = p.language L + q.language L := rfl

@[simp] theorem Matcher.language_orElse (a b : Matcher) :
    (a <|> b).language lenient L = a.language lenient L + b.language lenient L := rfl

@[simp] theorem Phrase.language_sign : Phrase.sign.language L = signs := rfl

@[simp] theorem Matcher.language_sign : Rule.sign.language lenient L = signs := rfl

/-- Where signs are dropped, a parameter list may hold one. -/
private theorem Rule.language_parameterList :
    Rule.parameterList.matcher.language lenient L =
      Rule.parameterList.production.language L + Rule.parameterList.loneSign lenient := by
  cases lenient <;>
    simp only [matcher, production, Matcher.language, Phrase.language, Phrase.language_append,
      Matcher.andThen, furtherItems, Matcher.symbol, Matcher.drops, dropsSign, loneSign,
      Phrase.mark, Phrase.listOf, Terminal.test, decide_true, Bool.true_or, and_self,
      false_and, Bool.false_eq_true, if_true, if_false, add_zero, add_mul, mul_add]

/-- The matcher of a nonterminal has the language of its production, with the further
alternative where signs are dropped. -/
theorem Rule.language_matcher (hL : L .variableName = TokenTest.language ⟨.name, none⟩)
    (rule : Rule) :
    rule.matcher.language lenient L = rule.production.language L + rule.loneSign lenient := by
  by_cases hp : rule = .parameterList
  · rw [hp, language_parameterList]
  have hd : Rule.sign.drops = false := rfl
  rw [show rule.loneSign lenient = 0 by simp [loneSign, hp], add_zero]
  cases rule
  case parameterList => exact absurd rfl hp
  all_goals
    simp only [matcher, production, Matcher.language, Phrase.language, Phrase.language_append,
      Phrase.language_orElse, Matcher.language_orElse, Matcher.andThen, List.cons_append,
      List.nil_append, List.replicate, actionWith, ActionWord.text, furtherItems, furtherOperand,
      operand, openBrace, closeBrace, closingLine, Matcher.opening, Matcher.symbol,
      Matcher.anyName, Matcher.anyNumber, Matcher.endOfLine, Matcher.endOfInput, Matcher.drops, hd,
      dropsSign, Phrase.word, Phrase.mark, Phrase.eol, Phrase.identifier, Phrase.listOf,
      Phrase.language_sign, Matcher.language_sign, Terminal.test, hL, and_false, if_false,
      reduceCtorEq, decide_false, Bool.or_self, Bool.false_eq_true, add_zero, mul_one, one_mul,
      mul_assoc]
  case program | factor | unsignedFactor | comparator =>
    simp only [add_mul, mul_add, one_mul, mul_one, mul_assoc]
    abel

end Evaluation

/-! ### The least languages -/

theorem Phrase.language_mono {L L' : Rule → Language Token} (h : ∀ rule, L rule ≤ L' rule)
    (phrase : Phrase) : phrase.language L ≤ phrase.language L' := by
  induction phrase with
  | terminal t => exact le_rfl
  | nonterminal name => exact h name
  | sequence p q ihp ihq => exact mul_le_mul' ihp ihq
  | choice p q ihp ihq => exact add_le_add ihp ihq
  | option p ih => exact add_le_add le_rfl ih
  | repetition p ih => exact kstar_mono ih

theorem Rule.language_variableName (lenient : Bool) :
    Rule.variableName.language lenient = TokenTest.language ⟨.name, none⟩ := by
  rw [language_eq, show Rule.variableName.loneSign lenient = 0 by simp [loneSign], add_zero]
  rfl

theorem Rule.matcher_language (lenient : Bool) (rule : Rule) :
    rule.matcher.language lenient (Rule.language lenient) = rule.language lenient := by
  rw [language_matcher lenient _ (language_variableName lenient), ← language_eq]

/-- They are the least such languages: a property of token lists holds of all that are derived
if every matcher passes it on from the nonterminals it calls. -/
theorem Rule.language_le {lenient : Bool} {X : Rule → Language Token}
    (hX : ∀ (rule : Rule) (w : List Token), w ∈ rule.language lenient →
      w ∈ rule.matcher.language lenient
        (fun other ↦ {w | w ∈ X other ∧ w ∈ other.language lenient}) → w ∈ X rule) (rule : Rule) :
    rule.language lenient ≤ X rule := by
  let L : Rule → Language Token := fun other ↦ {w | w ∈ X other ∧ w ∈ other.language lenient}
  have hle : ∀ other, L other ≤ other.language lenient := fun other w hw ↦ hw.2
  have hname : L .variableName = TokenTest.language ⟨.name, none⟩ := by
    refine le_antisymm (language_variableName lenient ▸ hle .variableName) fun w hw ↦ ?_
    have hmem : w ∈ Rule.variableName.language lenient := by rwa [language_variableName]
    exact ⟨hX .variableName w hmem hw, hmem⟩
  have hclosed : ∀ other : Rule,
      other.production.language L + other.loneSign lenient ≤ L other := by
    intro other w hw
    have hmem : w ∈ other.language lenient :=
      other.language_closed lenient (add_le_add (Phrase.language_mono hle _) le_rfl hw)
    exact ⟨hX other w hmem (by rwa [language_matcher lenient L hname]), hmem⟩
  intro w hw
  have hd : Bugs.Derives lenient (.nonterminal rule) w := hw
  exact (hd.mem_language hclosed).1

/-! ### First tokens, and the end of the input -/

theorem TokenTest.nil_notMem_language (test : TokenTest) : [] ∉ test.language := by
  rintro ⟨t, -, h⟩
  cases h

namespace Matcher

variable {lenient : Bool} {L : Rule → Language Token}

theorem nullable_of_nil_mem (hL : ∀ rule, [] ∉ L rule) {m : Matcher}
    (h : [] ∈ m.language lenient L) : m.nullable = true := by
  induction m with
  | token test => exact absurd h (TokenTest.nil_notMem_language test)
  | keyword word => exact absurd h (TokenTest.nil_notMem_language _)
  | announce | optional | many => rfl
  | rule name => exact absurd h (hL name)
  | both a b iha ihb =>
    obtain ⟨u, hu, v, hv, huv⟩ := Language.mem_mul.mp h
    obtain ⟨rfl, rfl⟩ := List.append_eq_nil_iff.mp huv
    rw [nullable, iha hu, ihb hv, Bool.and_self]
  | either a b iha ihb =>
    rw [nullable, Bool.or_eq_true]
    exact h.imp iha ihb
  | must m _ ih | rewind m ih | rewindSign m ih => exact ih h

/-- A nonempty list of the language of a matcher begins with one of its first tokens. -/
theorem starts_of_mem (hnil : ∀ rule, [] ∉ L rule)
    (hL : ∀ name t w, t :: w ∈ L name → (rule name).starts t = true) {m : Matcher}
    (hm : m.regular = true) {t : Token} {w : List Token} (h : t :: w ∈ m.language lenient L) :
    m.starts t = true := by
  induction m generalizing t w with
  | token test =>
    obtain ⟨t', ht, hw⟩ := h
    cases hw
    simpa using ht
  | keyword word =>
    obtain ⟨t', ht, hw⟩ := h
    cases hw
    simpa using ht
  | announce => cases (Language.mem_one _).mp h
  | rule name => exact hL _ _ _ h
  | both a b iha ihb =>
    simp only [regular, Bool.and_eq_true] at hm
    obtain ⟨u, hu, v, hv, huv⟩ := Language.mem_mul.mp h
    rw [starts_both, Bool.or_eq_true, Bool.and_eq_true]
    cases u with
    | nil =>
      rw [List.nil_append] at huv
      exact .inr ⟨nullable_of_nil_mem hnil hu, ihb hm.1.2 (huv ▸ hv)⟩
    | cons s u =>
      cases huv
      exact .inl (iha hm.1.1 hu)
  | either a b iha ihb =>
    simp only [regular, Bool.and_eq_true] at hm
    rw [starts_either, Bool.or_eq_true]
    exact h.imp (iha hm.1.1.1) (ihb hm.1.1.2)
  | must m _ ih =>
    simp only [regular, Bool.and_eq_true] at hm
    exact ih hm.1 h
  | optional m ih =>
    simp only [regular, Bool.and_eq_true] at hm
    rcases h with (h | h) | h
    · cases (Language.mem_one _).mp h
    · exact ih hm.1 h
    · split at h
      · rename_i hd
        obtain ⟨t', ht, hw⟩ := mem_signs.mp h
        cases hw
        exact starts_of_drops hm.2 hd.2 (starts_term_of_isSign ht)
      · exact absurd h (Language.notMem_zero _)
  | many m ih =>
    simp only [regular, Bool.and_eq_true] at hm
    obtain ⟨parts, hw, hparts⟩ := Language.mem_kstar_iff_exists_nonempty.mp h
    cases parts with
    | nil => cases hw
    | cons part parts =>
      obtain ⟨hpart, hne⟩ := hparts part (by simp)
      cases part with
      | nil => exact absurd rfl hne
      | cons s part =>
        cases hw
        exact ih hm.1.1.1.1 hpart
  | rewind m ih | rewindSign m ih => exact ih hm h

/-- The language of a plain matcher holds no end of the input. -/
theorem kind_ne_of_mem (hL : ∀ name : Rule, name ≠ .program → ∀ w ∈ L name,
      ∀ t ∈ w, t.kind ≠ .endOfInput) {m : Matcher} (hm : m.plain = true) {w : List Token}
    (h : w ∈ m.language lenient L) : ∀ t ∈ w, t.kind ≠ .endOfInput := by
  have htest (test : TokenTest) (hk : test.kind ≠ .endOfInput) {w : List Token}
      (h : w ∈ test.language) : ∀ t ∈ w, t.kind ≠ .endOfInput := by
    obtain ⟨t, ht, rfl⟩ := h
    simp only [TokenTest.accepts, Bool.and_eq_true, decide_eq_true_eq] at ht
    simpa [ht.1] using hk
  induction m generalizing w with
  | token test => exact htest test (by simpa [plain] using hm) h
  | keyword word => exact htest ⟨.keyword, word⟩ (by simp) h
  | announce =>
    obtain rfl := (Language.mem_one _).mp h
    simp
  | rule name => exact hL name (by simpa [plain] using hm) w h
  | both a b iha ihb =>
    simp only [plain, Bool.and_eq_true] at hm
    obtain ⟨u, hu, v, hv, rfl⟩ := Language.mem_mul.mp h
    exact List.forall_mem_append.mpr ⟨iha hm.1 hu, ihb hm.2 hv⟩
  | either a b iha ihb =>
    simp only [plain, Bool.and_eq_true] at hm
    exact h.elim (iha hm.1) (ihb hm.2)
  | must m _ ih | rewind m ih | rewindSign m ih => exact ih hm h
  | optional m ih =>
    rcases h with (h | h) | h
    · obtain rfl := (Language.mem_one _).mp h
      simp
    · exact ih hm h
    · split at h
      · exact h.elim (htest ⟨.symbol, _⟩ (by simp)) (htest ⟨.symbol, _⟩ (by simp))
      · exact absurd h (Language.notMem_zero _)
  | many m ih =>
    obtain ⟨parts, rfl, hparts⟩ := Language.mem_kstar.mp h
    intro t ht
    obtain ⟨part, hp, ht⟩ := List.mem_flatten.mp ht
    exact ih hm (hparts part hp) t ht

/-- A matcher has a nonempty language if the nonterminals it cannot do without have one. -/
theorem exists_mem_language {m : Matcher} (hL : ∀ name ∈ m.needs, ∃ w, w ∈ L name) :
    ∃ w, w ∈ m.language lenient L := by
  have htest (test : TokenTest) : ∃ w, w ∈ test.language := by
    refine ⟨[⟨test.kind, test.text.getD "", 1, 1⟩], _, ?_, rfl⟩
    cases h : test.text <;> simp [TokenTest.accepts, h]
  induction m with
  | token test => exact htest test
  | keyword word => exact htest ⟨.keyword, word⟩
  | announce => exact ⟨[], rfl⟩
  | rule name => exact hL name (by simp [needs])
  | both a b iha ihb =>
    simp only [needs, List.mem_append] at hL
    obtain ⟨u, hu⟩ := iha fun name hn ↦ hL name (.inl hn)
    obtain ⟨v, hv⟩ := ihb fun name hn ↦ hL name (.inr hn)
    exact ⟨u ++ v, Language.append_mem_mul hu hv⟩
  | either a b iha =>
    obtain ⟨w, hw⟩ := iha hL
    exact ⟨w, .inl hw⟩
  | must m _ ih | rewind m ih | rewindSign m ih => exact ih hL
  | optional m => exact ⟨[], .inl (.inl rfl)⟩
  | many m => exact ⟨[], Language.nil_mem_kstar _⟩

end Matcher

namespace Rule

variable {lenient : Bool} {rule : Rule} {w : List Token}

/-- No nonterminal derives the empty list. -/
theorem nil_notMem_language (lenient : Bool) (rule : Rule) : [] ∉ rule.language lenient := by
  intro h
  refine language_le (X := fun _ ↦ {w | w ≠ []}) (fun other w _ hw hnil ↦ ?_) rule h rfl
  subst hnil
  have hn := Matcher.nullable_of_nil_mem (fun _ h ↦ h.1 rfl) hw
  rw [other.nullable_matcher] at hn
  cases hn

/-- What a nonterminal derives begins with one of its first tokens. -/
theorem starts_of_mem {t : Token} (h : t :: w ∈ rule.language lenient) :
    (Matcher.rule rule).starts t = true := by
  refine language_le
    (X := fun other ↦ {w | ∀ t v, w = t :: v → (Matcher.rule other).starts t = true})
    (fun other w _ hw t v htv ↦ ?_) rule h t w rfl
  subst htv
  rw [← other.starts_matcher]
  exact Matcher.starts_of_mem (fun name h ↦ nil_notMem_language lenient name h.2)
    (fun name t w h ↦ h.1 t w rfl) other.regular_matcher hw

/-- Only programs hold the end of the input. -/
theorem kind_ne_of_mem (hr : rule ≠ .program) (h : w ∈ rule.language lenient) :
    ∀ t ∈ w, t.kind ≠ .endOfInput := by
  refine language_le (X := fun other ↦ {w | other ≠ .program → ∀ t ∈ w, t.kind ≠ .endOfInput})
    (fun other w _ hw ho ↦ ?_) rule h hr
  exact Matcher.kind_ne_of_mem (fun name hn w h ↦ h.1 hn) (other.plain_matcher ho) hw

/-- Every nonterminal derives something. -/
theorem exists_mem_language (lenient : Bool) (rule : Rule) : ∃ w, w ∈ rule.language lenient := by
  rw [← matcher_language]
  exact Matcher.exists_mem_language fun name _ ↦ exists_mem_language lenient name
termination_by rule.rank
decreasing_by exact rank_lt_of_mem_needs ‹_›

theorem eq_append_of_mem_program (h : w ∈ Rule.program.language lenient) :
    ∃ body last, w = body ++ [last] ∧ (∀ t ∈ body, t.kind ≠ .endOfInput) ∧
      last.kind = .endOfInput := by
  rw [← matcher_language] at h
  obtain ⟨head, hhead, tail, htail, rfl⟩ := Language.mem_mul.mp h
  obtain ⟨bugs, hbugs, _, ⟨last, hlast, rfl⟩, rfl⟩ := Language.mem_mul.mp htail
  refine ⟨head ++ bugs, last, (List.append_assoc ..).symm, ?_, ?_⟩
  · have hplain {m : Matcher} (hm : m.plain = true) {u : List Token}
        (hu : u ∈ m.language lenient (Rule.language lenient)) : ∀ t ∈ u, t.kind ≠ .endOfInput :=
      Matcher.kind_ne_of_mem (fun name hn w hw ↦ kind_ne_of_mem hn hw) hm hu
    exact List.forall_mem_append.mpr
      ⟨hplain (by decide +kernel) hhead, hplain (by decide +kernel) hbugs⟩
  · simpa [TokenTest.accepts] using hlast

/-- The end of the input is the last token of a program, and occurs nowhere else in what is
derived. -/
theorem eq_program_of_mem {before after : List Token} {t : Token}
    (hw : before ++ t :: after ∈ rule.language lenient) (ht : t.kind = .endOfInput) :
    rule = .program ∧ after = [] := by
  by_cases hr : rule = .program
  · subst hr
    obtain ⟨body, last, hbody, hplain, -⟩ := eq_append_of_mem_program hw
    refine ⟨rfl, ?_⟩
    rcases after.eq_nil_or_concat with rfl | ⟨rest, final, rfl⟩
    · rfl
    · rw [List.concat_eq_append, ← List.cons_append, ← List.append_assoc] at hbody
      have hinit := (List.append_inj' hbody rfl).1
      exact absurd ht (hplain t (hinit ▸ by simp))
  · exact absurd ht (kind_ne_of_mem hr hw t (by simp))

end Rule

end Bugs
