import Bugs.Proofs.Matcher.Locality
import Bugs.Proofs.Observation

/-!
# What commits a nonterminal

Whether a nonterminal matches or fails rather than tells that it does not match, is decided by the
next token, and by the one behind that in five cases: a function definition needs its name, a
function call its parenthesis, the comparator `!=` its second sign, and a sign in front of an
expression or an arithmetic expression needs the beginning of a term. The tests are written out in
`Rule.decisive` and `Rule.tentative`; what the rest of the tape holds plays no part.

The alternatives of a choice begin with different tokens, so at every place all of them but one
decline, and an alternative that declines leaves the cursor where it was. Choices may therefore try
their alternatives in any order.

## Main definitions

* `Rule.decisive`, `Rule.tentative`, `Rule.commits`: the tokens that commit a nonterminal.
* `Declines`: a matcher does not match at a position.
* `Matcher.alternatives`, `Matcher.choices`, `Matcher.exclusive`: choices whose alternatives begin
  with different tokens.

## Main results

* `Rule.declines_iff`: what commits a nonterminal, for readings.
* `Reads.declines_other`, `Reads.reordered`: at most one alternative does not decline, and the order
  of the alternatives does not matter.
* `Rule.committed_within_two_tokens`.
-/

namespace Bugs

/-! ### The tokens that commit -/

/-- Tests for keywords. -/
def wordTests (words : List String) : List TokenTest :=
  words.map fun word ↦ ⟨.keyword, some word⟩

/-- Tests for symbols. -/
def symbolTests (symbols : List String) : List TokenTest :=
  symbols.map fun symbol ↦ ⟨.symbol, some symbol⟩

namespace Rule

/-- The tests on the next token that commit a nonterminal, whatever comes behind that token. -/
def decisive : Rule → List TokenTest
  | program => wordTests ["Allbugs", "Bug"]
  | allbugsCode => wordTests ["Allbugs"]
  | bugDefinition => wordTests ["Bug"]
  | varDeclaration => wordTests ["var"]
  | initializationBlock => wordTests ["initially"]
  | functionDefinition | functionCall => []
  | command => ⟨.name, none⟩ :: wordTests ["move", "moveto", "turn", "turnto", "line", "loop",
      "exit", "switch", "return", "do", "color"]
  | statement => ⟨.name, none⟩ :: wordTests ["loop", "exit", "switch", "return", "do", "color"]
  | loopStatement => wordTests ["loop"]
  | exitIfStatement => wordTests ["exit"]
  | switchStatement => wordTests ["switch"]
  | returnStatement => wordTests ["return"]
  | doStatement => wordTests ["do"]
  | colorStatement => wordTests ["color"]
  | block => symbolTests ["\x7b"]
  | eolGroup => [⟨.endOfLine, none⟩]
  | action => wordTests ["move", "moveto", "turn", "turnto", "line"]
  | moveAction => wordTests ["move"]
  | moveToAction => wordTests ["moveto"]
  | turnAction => wordTests ["turn"]
  | turnToAction => wordTests ["turnto"]
  | lineAction => wordTests ["line"]
  | expression | arithmeticExpression | unsignedFactor =>
    ⟨.name, none⟩ :: ⟨.number, none⟩ :: symbolTests ["("]
  | term | factor => ⟨.name, none⟩ :: ⟨.number, none⟩ :: symbolTests ["(", "+", "-"]
  | parameterList => symbolTests ["("]
  | comparator => symbolTests ["<", ">", "="]
  | addOperator => symbolTests ["+", "-"]
  | multiplyOperator => symbolTests ["*", "/"]
  | assignmentStatement | variableName => [⟨.name, none⟩]

/-- The tests on the next token that commit a nonterminal if the token behind it passes one of the
second tests. -/
def tentative : Rule → List TokenTest × List TokenTest
  | functionDefinition => (wordTests ["define"], [⟨.name, none⟩])
  | functionCall => ([⟨.name, none⟩], symbolTests ["("])
  | comparator => (symbolTests ["!"], symbolTests ["="])
  | expression | arithmeticExpression =>
    (symbolTests ["+", "-"], ⟨.name, none⟩ :: ⟨.number, none⟩ :: symbolTests ["(", "+", "-"])
  | _ => ([], [])

/-- The nonterminal is committed by the next two tokens. -/
def commits (rule : Rule) (next second : Token) : Bool :=
  next.passes rule.decisive || (next.passes rule.tentative.1 && second.passes rule.tentative.2)

theorem decisive_of_prompt (rule : Rule) : rule.prompt = true → rule.tentative = ([], []) ∧
    (∀ test ∈ rule.decisive, test ∈ rule.first) ∧ ∀ test ∈ rule.first, test ∈ rule.decisive :=
  of_all (by decide +kernel) rule

end Rule

/-! ### Matchers that decline -/

/-- The matcher does not match at the position. -/
def Declines (look : Nat → Token) (restore : Bool) (m : Matcher) (p : Nat) : Prop :=
  ∃ q, Reads look restore m p .unmatched q

section Declines

variable {look : Nat → Token} {restore : Bool} {m a b : Matcher} {p q : Nat} {v : Verdict}

theorem declines_rule {name : Rule} :
    Declines look restore (.rule name) p ↔ Declines look restore name.matcher p := by
  constructor
  · rintro ⟨q, h⟩
    cases h with
    | rule h => exact ⟨q, h⟩
  · rintro ⟨q, h⟩
    exact ⟨q, .rule h⟩

theorem declines_rewind : Declines look restore (.rewind m) p ↔ Declines look restore m p := by
  constructor
  · rintro ⟨q, h⟩
    cases h with
    | rewindStop _ hv => exact absurd rfl hv
    | rewind h => exact ⟨_, h⟩
  · rintro ⟨q, h⟩
    exact ⟨p, .rewind h⟩

theorem declines_rewindSign :
    Declines look restore (.rewindSign m) p ↔ Declines look restore m p := by
  constructor
  · rintro ⟨q, h⟩
    cases h with
    | rewindSignStop _ hv => exact absurd rfl hv
    | rewindSign h => exact ⟨_, h⟩
  · rintro ⟨q, h⟩
    exact ⟨_, .rewindSign h⟩

/-- Before a part that is sure of itself only the first part can decline. -/
theorem declines_both_of_sure (hb : b.sure = true) :
    Declines look restore (.both a b) p ↔ Declines look restore a p := by
  constructor
  · rintro ⟨q, h⟩
    cases h with
    | bothStop h _ => exact ⟨q, h⟩
    | both _ hr => exact absurd rfl (hr.ne_unmatched_of_sure hb)
  · rintro ⟨q, h⟩
    exact ⟨q, .bothStop h (by simp)⟩

/-- A choice declines if both alternatives do, as the first one leaves the position as it was. -/
theorem declines_either (ht : a.tidy = true) (hd : a.drops = false) :
    Declines look restore (.either a b) p ↔
      Declines look restore a p ∧ Declines look restore b p := by
  constructor
  · rintro ⟨q, h⟩
    cases h with
    | eitherStop _ hv => exact absurd rfl hv
    | either ha hb =>
      obtain rfl := ha.stays ht hd
      exact ⟨⟨_, ha⟩, ⟨_, hb⟩⟩
  · rintro ⟨⟨q, ha⟩, ⟨r, hb⟩⟩
    obtain rfl := ha.stays ht hd
    exact ⟨r, .either ha hb⟩

/-- A prompt matcher declines at the tokens at which it cannot go on. -/
theorem declines_iff_not_starts (hp : m.prompt = true) (hc : m.clean = true)
    (hn : m.nullable = false) : Declines look restore m p ↔ m.starts (look p) = false := by
  constructor
  · rintro ⟨q, h⟩
    exact (h.not_starts_of_prompt hp).2
  · intro hs
    have h : Reads look restore m p _ p := Matcher.reads_of_not_starts hc hs
    rw [hn] at h
    exact ⟨p, h⟩

/-- A matcher of one token and a prompt one behind it decline unless each can go on at its token. -/
theorem declines_pair (ha : a.single = true) (hp : b.prompt = true) (hc : b.clean = true)
    (hn : b.nullable = false) :
    Declines look restore (.both a b) p ↔
      (a.starts (look p) && b.starts (look (p + 1))) = false := by
  have hfirst : Declines look restore a p ↔ a.starts (look p) = false := by
    cases a with
    | token | keyword => exact declines_iff_not_starts rfl rfl rfl
    | announce | rule | both | either | must | optional | many | rewind | rewindSign => cases ha
  have hsecond : Declines look restore b (p + 1) ↔ b.starts (look (p + 1)) = false :=
    declines_iff_not_starts hp hc hn
  rw [Bool.and_eq_false_iff, ← hfirst, ← hsecond]
  constructor
  · rintro ⟨q, h⟩
    cases h with
    | bothStop h _ => exact .inl ⟨q, h⟩
    | both h hb =>
      obtain ⟨rfl, -⟩ := (Matcher.reads_single_iff ha).mp h
      exact .inr ⟨q, hb⟩
  · rintro (⟨q, h⟩ | ⟨q, hb⟩)
    · exact ⟨q, .bothStop h (by simp)⟩
    · by_cases hs : a.starts (look p) = true
      · exact ⟨q, .both ((Matcher.reads_single_iff ha).mpr ⟨rfl, hs⟩) hb⟩
      · obtain ⟨q, h⟩ := hfirst.mpr (Bool.eq_false_of_not_eq_true hs)
        exact ⟨q, .bothStop h (by simp)⟩

/-- The beginning of an arithmetic expression declines where no term follows the sign, if there is
one. -/
theorem declines_signed_term :
    Declines look restore (.both (.optional Rule.sign) (.rule .term)) p ↔
      (Matcher.rule .term).starts (look (if (look p).isSign then p + 1 else p)) = false := by
  constructor
  · rintro ⟨q, h⟩
    obtain ⟨rfl, ht⟩ := h.of_signed_term
    exact ht
  · intro ht
    exact ⟨_, reads_signed_term ht⟩

end Declines

/-! ### What commits a nonterminal -/

section Commits

variable {look : Nat → Token} {restore : Bool} {p : Nat}

theorem Rule.starts_eq_commits {rule : Rule} (h : rule.prompt = true) (t u : Token) :
    (Matcher.rule rule).starts t = rule.commits t u := by
  obtain ⟨hnone, hsub, hsup⟩ := rule.decisive_of_prompt h
  have hfirst : t.passes rule.first = t.passes rule.decisive :=
    Bool.eq_iff_iff.mpr ⟨Token.passes_of_subset hsup, Token.passes_of_subset hsub⟩
  rw [commits, hnone, ← hfirst]
  exact (Bool.or_false _).symm

section Tests

attribute [local simp] Rule.decisive Rule.tentative

theorem Rule.commits_term (t u : Token) :
    Rule.term.commits t u = (t.passes (decisive .unsignedFactor) || t.isSign) := by
  simp [commits, symbolTests, Token.passes, Token.isSign, Bool.or_assoc]

theorem Rule.commits_arithmeticExpression (t u : Token) :
    Rule.arithmeticExpression.commits t u =
      (t.passes (decisive .unsignedFactor) ||
        (t.isSign && (u.passes (decisive .unsignedFactor) || u.isSign))) := by
  simp [commits, symbolTests, Token.passes, Token.isSign, Bool.or_assoc]

theorem Token.not_unsigned_of_isSign {t : Token} (h : t.isSign = true) :
    t.passes (Rule.decisive .unsignedFactor) = false := by
  rw [isSign_eq_passes] at h
  exact passes_of_apart (by decide) h

private theorem declines_functionDefinition :
    Declines look restore (.rule .functionDefinition) p ↔
      Rule.functionDefinition.commits (look p) (look (p + 1)) = false := by
  rw [declines_rule]
  refine (declines_both_of_sure rfl).trans (declines_rewind.trans ?_)
  rw [declines_pair rfl rfl rfl rfl, Matcher.anyName, Matcher.starts_keyword, Matcher.starts_token]
  simp [Rule.commits, wordTests, Token.passes]

private theorem declines_functionCall :
    Declines look restore (.rule .functionCall) p ↔
      Rule.functionCall.commits (look p) (look (p + 1)) = false := by
  rw [declines_rule]
  refine declines_rewind.trans ?_
  rw [declines_pair rfl rfl rfl rfl, Matcher.anyName, Matcher.starts_token,
    Rule.starts_eq_commits rfl _ (look p)]
  simp [Rule.commits, symbolTests, Token.passes]

private theorem declines_comparator :
    Declines look restore (.rule .comparator) p ↔
      Rule.comparator.commits (look p) (look (p + 1)) = false := by
  rw [declines_rule]
  refine (declines_either rfl rfl).trans ?_
  rw [declines_both_of_sure rfl]
  refine (and_congr_right' (declines_either rfl rfl)).trans ?_
  rw [declines_rewind, declines_pair rfl rfl rfl rfl, declines_iff_not_starts rfl rfl rfl,
    declines_iff_not_starts rfl rfl rfl,
    show (Matcher.symbol "<" <|> .symbol ">") = .either (.symbol "<") (.symbol ">") from rfl]
  simp [Rule.commits, symbolTests, Token.passes, Matcher.symbol, and_assoc]

end Tests

private theorem declines_arithmeticExpression :
    Declines look restore (.rule .arithmeticExpression) p ↔
      Rule.arithmeticExpression.commits (look p) (look (p + 1)) = false := by
  rw [declines_rule]
  refine (declines_both_of_sure rfl).trans (declines_rewindSign.trans ?_)
  rw [declines_signed_term, Rule.starts_eq_commits rfl _ (look p), Rule.commits_term,
    Rule.commits_arithmeticExpression]
  cases hs : (look p).isSign with
  | true => simp [Token.not_unsigned_of_isSign hs]
  | false => simp [hs]

/-- A nonterminal declines unless the next two tokens commit it. -/
theorem Rule.declines_iff (rule : Rule) :
    Declines look restore (.rule rule) p ↔ rule.commits (look p) (look (p + 1)) = false := by
  cases hp : rule.prompt with
  | true =>
    rw [← starts_eq_commits hp]
    exact declines_iff_not_starts hp rfl rfl
  | false =>
    have hmem := Decidable.not_not.mp (of_decide_eq_false hp)
    simp only [List.mem_cons, List.not_mem_nil, or_false] at hmem
    rcases hmem with rfl | rfl | rfl | rfl | rfl
    · rw [declines_rule]
      exact (declines_both_of_sure rfl).trans declines_arithmeticExpression
    · exact declines_arithmeticExpression
    · exact declines_functionDefinition
    · exact declines_functionCall
    · exact declines_comparator

end Commits

/-! ### Choices -/

namespace Matcher

/-- The alternatives of a matcher, in the order in which they are tried. -/
def alternatives : Matcher → List Matcher
  | either a b => a.alternatives ++ b.alternatives
  | m => [m]

/-- The choices that occur in a matcher. -/
def choices : Matcher → List Matcher
  | either a b => either a b :: (a.choices ++ b.choices)
  | both a b => a.choices ++ b.choices
  | must m _ | optional m | many m | rewind m | rewindSign m => m.choices
  | token _ | keyword _ | announce _ | rule _ => []

/-- A matcher that reads nothing without matching, and matches nothing without reading. -/
def settled (m : Matcher) : Bool :=
  m.regular && m.clean && m.tidy && !m.drops && !m.nullable

/-- The alternatives are settled, and no two of them begin with the same token. -/
def exclusive (m : Matcher) : Bool :=
  m.alternatives.all fun a ↦
    a.settled && m.alternatives.all fun b ↦ b = a || testsApart b.first a.first

theorem settled_iff {m : Matcher} : m.settled = true ↔ m.regular = true ∧ m.clean = true ∧
    m.tidy = true ∧ m.drops = false ∧ m.nullable = false := by
  simp only [settled, Bool.and_eq_true, Bool.not_eq_true', and_assoc]

/-- A matcher whose alternatives are settled leaves the position as it was where it declines. -/
theorem tidy_of_alternatives {m : Matcher} (h : ∀ a ∈ m.alternatives, a.settled = true) :
    m.regular = true ∧ m.tidy = true ∧ m.drops = false := by
  induction m with
  | either a b iha ihb =>
    rw [alternatives, List.forall_mem_append] at h
    obtain ⟨hra, hta, hda⟩ := iha h.1
    obtain ⟨hrb, htb, hdb⟩ := ihb h.2
    simp [regular, tidy, drops, hra, hta, hda, hrb, htb, hdb]
  | token | keyword | announce | rule | both | must | optional | many | rewind | rewindSign =>
    obtain ⟨hr, -, ht, hd, -⟩ := settled_iff.mp (h _ List.mem_cons_self)
    exact ⟨hr, ht, hd⟩

end Matcher

section Choices

variable {look : Nat → Token} {restore : Bool} {m m' a b : Matcher} {p q : Nat} {v : Verdict}

/-- A choice declines where all its alternatives do. -/
theorem declines_iff_alternatives (h : ∀ a ∈ m.alternatives, a.settled = true) :
    Declines look restore m p ↔ ∀ a ∈ m.alternatives, Declines look restore a p := by
  induction m with
  | either a b iha ihb =>
    rw [Matcher.alternatives, List.forall_mem_append] at h
    obtain ⟨-, ht, hd⟩ := Matcher.tidy_of_alternatives h.1
    rw [declines_either ht hd, iha h.1, ihb h.2, Matcher.alternatives, List.forall_mem_append]
  | token | keyword | announce | rule | both | must | optional | many | rewind | rewindSign =>
    simp only [Matcher.alternatives, List.forall_mem_singleton]

/-- A choice reads as one of its alternatives. -/
theorem Reads.exists_alternative (h : ∀ a ∈ m.alternatives, a.settled = true)
    (hr : Reads look restore m p v q) : ∃ a ∈ m.alternatives, Reads look restore a p v q := by
  induction m with
  | either a b iha ihb =>
    rw [Matcher.alternatives, List.forall_mem_append] at h
    obtain ⟨-, ht, hd⟩ := Matcher.tidy_of_alternatives h.1
    cases hr with
    | eitherStop hr _ =>
      obtain ⟨c, hc, hr⟩ := iha h.1 hr
      exact ⟨c, List.mem_append_left _ hc, hr⟩
    | either ha hr =>
      obtain rfl := ha.stays ht hd
      obtain ⟨c, hc, hr⟩ := ihb h.2 hr
      exact ⟨c, List.mem_append_right _ hc, hr⟩
  | token | keyword | announce | rule | both | must | optional | many | rewind | rewindSign =>
    exact ⟨_, List.mem_cons_self, hr⟩

/-- A choice reads as the one alternative that does not decline, wherever that one stands. -/
theorem Reads.of_alternative (h : ∀ a ∈ m.alternatives, a.settled = true)
    (ha : a ∈ m.alternatives) (hr : Reads look restore a p v q) (hv : v ≠ .unmatched)
    (hothers : ∀ b ∈ m.alternatives, b ≠ a → Declines look restore b p) :
    Reads look restore m p v q := by
  induction m with
  | either x y ihx ihy =>
    rw [Matcher.alternatives, List.forall_mem_append] at h hothers
    by_cases hx : a ∈ x.alternatives
    · exact .eitherStop (ihx h.1 hx hothers.1) hv
    · -- all alternatives that are tried before decline
      have hy := (List.mem_append.mp ha).resolve_left hx
      obtain ⟨r, hr⟩ := (declines_iff_alternatives h.1).mpr fun b hb ↦
        hothers.1 b hb (fun heq ↦ hx (heq ▸ hb))
      obtain ⟨-, ht, hd⟩ := Matcher.tidy_of_alternatives h.1
      obtain rfl := hr.stays ht hd
      exact .either hr (ihy h.2 hy hothers.2)
  | token | keyword | announce | rule | both | must | optional | many | rewind | rewindSign =>
    obtain rfl := List.mem_singleton.mp ha
    exact hr

theorem Matcher.settled_of_exclusive (h : m.exclusive = true) :
    ∀ a ∈ m.alternatives, a.settled = true := by
  intro a ha
  exact (Bool.and_eq_true_iff.mp (List.all_eq_true.mp h a ha)).1

/-- Where one alternative of an exclusive choice does not decline, all others do. -/
theorem Reads.declines_other (h : m.exclusive = true) (ha : a ∈ m.alternatives)
    (hb : b ∈ m.alternatives) (hne : b ≠ a) (hr : Reads look restore a p v q)
    (hv : v ≠ .unmatched) : Declines look restore b p := by
  obtain ⟨-, hca, -, -, hna⟩ := Matcher.settled_iff.mp (m.settled_of_exclusive h a ha)
  obtain ⟨-, hcb, -, -, hnb⟩ := Matcher.settled_iff.mp (m.settled_of_exclusive h b hb)
  have hstarts : a.starts (look p) = true := by
    refine Bool.of_not_eq_false fun hs ↦ ?_
    have hun : Reads look restore a p _ p := Matcher.reads_of_not_starts hca hs
    rw [hna] at hun
    exact hv (hr.deterministic hun).1
  have hall := (Bool.and_eq_true_iff.mp (List.all_eq_true.mp h a ha)).2
  have hapart : b = a ∨ testsApart b.first a.first = true := by
    simpa using List.all_eq_true.mp hall b hb
  have hun : Reads look restore b p _ p := Matcher.reads_of_not_starts hcb
    (Token.passes_of_apart (hapart.resolve_left hne) hstarts)
  rw [hnb] at hun
  exact ⟨p, hun⟩

/-- An exclusive choice with its alternatives in another order reads the same. -/
theorem Reads.reordered (h : m.exclusive = true) (hperm : m'.alternatives.Perm m.alternatives)
    (hr : Reads look restore m p v q) : Reads look restore m' p v q := by
  have hs := m.settled_of_exclusive h
  have hs' : ∀ a ∈ m'.alternatives, a.settled = true := fun a ha ↦ hs a (hperm.mem_iff.mp ha)
  obtain ⟨a, ha, hra⟩ := hr.exists_alternative hs
  by_cases hv : v = .unmatched
  · subst hv
    have hall := (declines_iff_alternatives hs).mp ⟨q, hr⟩
    obtain ⟨q', hr'⟩ := (declines_iff_alternatives hs').mpr fun b hb ↦ hall b (hperm.mem_iff.mp hb)
    -- neither of the two choices has read anything
    obtain ⟨-, ht, hd⟩ := Matcher.tidy_of_alternatives hs
    obtain ⟨-, ht', hd'⟩ := Matcher.tidy_of_alternatives hs'
    obtain rfl := hr.stays ht hd
    obtain rfl := hr'.stays ht' hd'
    exact hr'
  · exact .of_alternative hs' (hperm.mem_iff.mpr ha) hra hv fun b hb hne ↦
      hra.declines_other h ha (hperm.mem_iff.mp hb) hne hv

end Choices

/-- All choices in the matchers of the nonterminals are exclusive, but for one that may read
nothing, found by evaluation. -/
theorem Rule.exclusive_of_mem_choices (rule : Rule) :
    ∀ m ∈ rule.matcher.choices, m.nullable = false → m.exclusive = true :=
  of_all (by decide +kernel) rule

/-! ### Runs -/

/-- From a state, the alternatives of a choice may be tried in any order. -/
structure Matcher.AnyOrder (setup : Setup) (m : Matcher) (s : State) : Prop where
  /-- The choice does not match exactly if no alternative does. -/
  unmatched_iff : (m.run setup s).1 = .unmatched ↔
    ∀ a ∈ m.alternatives, (a.run setup s).1 = .unmatched
  /-- Of two alternatives at most one matches or fails. -/
  at_most_one : ∀ a ∈ m.alternatives, ∀ b ∈ m.alternatives, b ≠ a →
    (a.run setup s).1 = .unmatched ∨ (b.run setup s).1 = .unmatched
  /-- A choice with the same alternatives comes to the same answer at the same place. -/
  reordered : ∀ m' : Matcher, m'.alternatives.Perm m.alternatives →
    (m'.run setup s).1 = (m.run setup s).1 ∧
      (m'.run setup s).2.cursor.mark = (m.run setup s).2.cursor.mark

section Runs

variable {setup : Setup} {m m' : Matcher}

/-- On a tape that ends, the run of a regular matcher does not match where the matcher declines. -/
theorem Matcher.run_eq_unmatched_iff (hend : setup.tape.Ends) (hm : m.regular = true) (s : State) :
    (m.run setup s).1 = .unmatched ↔
      Declines setup.tape.look setup.options.restoreSign m s.cursor.position := by
  constructor
  · intro h
    obtain ⟨v, hv, hr⟩ := m.reads_run hend hm s
    rw [h] at hv
    cases hv
    exact ⟨_, hr⟩
  · rintro ⟨q, hr⟩
    exact Ending.verdict?_eq_unmatched.mp (m.run_of_reads hend hm hr).1

/-- On a tape that ends, two regular matchers of which one reads what the other reads come to the
same answer at the same place. -/
theorem Matcher.run_congr (hend : setup.tape.Ends) (hm : m.regular = true)
    (hm' : m'.regular = true) {s : State}
    (h : ∀ v q, Reads setup.tape.look setup.options.restoreSign m s.cursor.position v q →
      Reads setup.tape.look setup.options.restoreSign m' s.cursor.position v q) :
    (m'.run setup s).1 = (m.run setup s).1 ∧
      (m'.run setup s).2.cursor.mark = (m.run setup s).2.cursor.mark := by
  obtain ⟨v, -, hr⟩ := m.reads_run hend hm s
  obtain ⟨hending, hmark⟩ := m.run_eq_of_reads hend hm hr
  obtain ⟨hending', hmark'⟩ := m'.run_eq_of_reads hend hm' (h _ _ hr)
  exact ⟨hending'.trans hending.symm, hmark'.trans hmark.symm⟩

/-- On a tape that ends, the alternatives of an exclusive choice may be tried in any order. -/
theorem Matcher.anyOrder_of_exclusive (hend : setup.tape.Ends) (h : m.exclusive = true)
    (s : State) : m.AnyOrder setup s := by
  have hs := m.settled_of_exclusive h
  have hregular (a : Matcher) (ha : a ∈ m.alternatives) : a.regular = true :=
    (settled_iff.mp (hs a ha)).1
  constructor
  · rw [m.run_eq_unmatched_iff hend (tidy_of_alternatives hs).1, declines_iff_alternatives hs]
    exact forall₂_congr fun a ha ↦ (a.run_eq_unmatched_iff hend (hregular a ha) s).symm
  · intro a ha b hb hne
    by_cases hun : (a.run setup s).1 = .unmatched
    · exact .inl hun
    · obtain ⟨v, hv, hr⟩ := a.reads_run hend (hregular a ha) s
      have hne' : v ≠ .unmatched := by
        rintro rfl
        exact hun (Ending.verdict?_eq_unmatched.mp hv)
      exact .inr ((b.run_eq_unmatched_iff hend (hregular b hb) s).mpr
        (hr.declines_other h ha hb hne hne'))
  · intro m' hperm
    have hs' : ∀ a ∈ m'.alternatives, a.settled = true := fun a ha ↦ hs a (hperm.mem_iff.mp ha)
    exact run_congr hend (tidy_of_alternatives hs).1 (tidy_of_alternatives hs').1
      fun _ _ hr ↦ hr.reordered h hperm

/-- On a tape that ends, a nonterminal comes to the answer of its matcher at the same place. -/
theorem Rule.run_matcher (hend : setup.tape.Ends) (rule : Rule) (s : State) :
    (rule.matcher.run setup s).1 = (rule.run setup s).1 ∧
      (rule.matcher.run setup s).2.cursor.mark = (rule.run setup s).2.cursor.mark := by
  rw [← Matcher.run_rule]
  refine Matcher.run_congr hend rfl rule.regular_matcher fun v q hr ↦ ?_
  cases hr with
  | rule hr => exact hr

end Runs

/-- On a tape that ends, the next two tokens decide whether a nonterminal does not match or comes to
another answer, from every state. All choices in its matcher, those apart whose last alternative may
read nothing, try alternatives of which at most one comes to another answer, so that their order
does not matter. A nonterminal that is itself a choice, such as an action, a statement or a command,
does not match exactly if none of its alternatives does. -/
theorem Rule.committed_within_two_tokens {setup : Setup} (hend : setup.tape.Ends) (rule : Rule)
    (s : State) :
    let next := setup.tape.look s.cursor.position
    let second := setup.tape.look (s.cursor.position + 1)
    let ending := (rule.run setup s).1
    (rule.commits next second = false → ending = .unmatched) ∧
      (rule.commits next second = true → ending = .matched ∨ ∃ d, ending = .failed d) ∧
      (∀ m ∈ rule.matcher.choices, m.nullable = false → m.AnyOrder setup s) ∧
      (rule.matcher ∈ rule.matcher.choices →
        (ending = .unmatched ↔
          ∀ a ∈ rule.matcher.alternatives, (a.run setup s).1 = .unmatched) ∧
        ∀ m' : Matcher, m'.alternatives.Perm rule.matcher.alternatives →
          (m'.run setup s).1 = ending ∧
            (m'.run setup s).2.cursor.mark = (rule.run setup s).2.cursor.mark) := by
  intro next second ending
  have hun : ending = .unmatched ↔ rule.commits next second = false := by
    rw [← declines_iff, ← Matcher.run_eq_unmatched_iff hend rfl, Matcher.run_rule]
  have hchoices : ∀ m ∈ rule.matcher.choices, m.nullable = false → m.AnyOrder setup s :=
    fun m hm hn ↦ m.anyOrder_of_exclusive hend (rule.exclusive_of_mem_choices m hm hn) s
  refine ⟨hun.mpr, fun hcommits ↦ ?_, hchoices, fun hchoice ↦ ?_⟩
  · obtain ⟨v, hv, -⟩ := rule.reads_run hend s
    rcases Ending.eq_of_verdict? hv with hmatched | hunmatched | hfailed
    · exact .inl hmatched
    · exact absurd (hun.mp hunmatched) (by simp [hcommits])
    · exact .inr hfailed
  · obtain ⟨hending, hmark⟩ := rule.run_matcher hend s
    have hany := hchoices _ hchoice rule.nullable_matcher
    refine ⟨by rw [← hany.unmatched_iff, hending], fun m' hperm ↦ ?_⟩
    obtain ⟨hending', hmark'⟩ := hany.reordered m' hperm
    exact ⟨hending'.trans hending, hmark'.trans hmark⟩

/-- An exclamation mark commits a comparator in front of an equals sign and not in front of another
exclamation mark. The choice that tries the comparators from the last to the first finds it too. -/
theorem Rule.exclamation_mark_with_equals_sign :
    let tape := Tape.closing
      [⟨.symbol, "!", 1, 1⟩, ⟨.symbol, "!", 1, 2⟩, ⟨.symbol, "=", 1, 3⟩] ⟨.endOfInput, "EOF", 1, 4⟩
    let setup : Setup := ⟨tape, ⟨true, false⟩⟩
    let behind : State := ⟨⟨1, 1, none⟩, none⟩
    let turned : Matcher := .either (.rewind (.both (.symbol "!") (.symbol "=")))
      (.either (.symbol "=")
        (.both (.either (.symbol "<") (.symbol ">")) (.optional (.symbol "="))))
    tape.Ends ∧ (Rule.comparator.run setup (.start none)).1 = .unmatched ∧
      (Rule.comparator.run setup behind).1 ≠ .unmatched ∧
      (turned.run setup behind).1 = (Rule.comparator.run setup behind).1 := by
  intro tape setup behind turned
  have hend : tape.Ends := by decide +kernel
  obtain ⟨hdeclines, -, -, -⟩ :=
    @committed_within_two_tokens setup hend .comparator (.start none)
  obtain ⟨-, hcommits, -, hchoice⟩ :=
    @committed_within_two_tokens setup hend .comparator behind
  refine ⟨hend, hdeclines (by decide +kernel), ?_, ?_⟩
  · rcases hcommits (by decide +kernel) with h | ⟨d, h⟩
    · simp [h]
    · simp [h]
  · exact ((hchoice (by decide +kernel)).2 turned (by decide +kernel)).1

end Bugs
