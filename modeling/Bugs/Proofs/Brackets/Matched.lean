import Bugs.Proofs.Acceptance
import Bugs.Proofs.Brackets.Standing

/-!
# What is accepted is well bracketed

Whatever tokens follow each other on a tape, and whether or not signs are dropped, those that a
nonterminal consumes are well bracketed. Brackets are opened and closed by the same matcher, with
other nonterminals in between, and so the standing of the brackets can be computed over a matcher
from the standing in front of it, given that every nonterminal leaves the brackets as it found
them. `Matcher.standing` is this computation. It comes out even for all matchers, and hence every
token list that is derived leaves the open brackets as it found them.

## Main definitions

* `Rule.inline`: the nonterminals that may stand between round brackets.
* `Matcher.standing`: the standing behind a matcher, from the one in front of it.
* `Setup.consumed`: the tokens that a run has consumed.

## Main results

* `Matcher.scan_of_mem`, `Rule.scan_of_mem`: what is derived is read to the end.
* `Rule.consumed_wellBracketed`.
-/

open scoped Computability

namespace Bugs

/-! ### The standing of the brackets in a matcher -/

/-- The nonterminal is part of an expression. These may stand between round brackets. -/
def Rule.inline : Rule → Bool
  | expression | arithmeticExpression | term | factor | unsignedFactor | parameterList
  | functionCall | comparator | addOperator | multiplyOperator | variableName => true
  | _ => false

/-- The nonterminal may be read where the brackets stand in this way: where a line end is due only
a group of line ends, and between round brackets only parts of expressions. -/
def Rule.Fits (rule : Rule) (s : Standing) : Prop :=
  (s.lineDue → rule = .eolGroup) ∧ (rule.inline ∨ .round ∉ s.openings)

instance (rule : Rule) (s : Standing) : Decidable (rule.Fits s) :=
  inferInstanceAs (Decidable ((s.lineDue → rule = .eolGroup) ∧
    (rule.inline ∨ .round ∉ s.openings)))

/-- The standing with further brackets open around it. -/
def Standing.within (s : Standing) (outer : List Bracket) : Standing :=
  ⟨s.openings ++ outer, s.lineDue⟩

namespace Matcher

/-- The standing behind a matcher, from the one in front of it, unless the matcher may read a
token that must not stand there. In a part of an expression, which may have round brackets around
it, neither line ends nor curly brackets are read. -/
def standing (inline : Bool) : Matcher → Standing → Option Standing
  | token test, s =>
    test.role?.bind fun role ↦ if inline ∧ role.outside then none else s.step role
  | keyword _, s => s.step .other
  | announce _, s => some s
  | rule name, s =>
    if name.Fits s ∧ (inline → name.inline) then some ⟨s.openings, false⟩ else none
  | both a b, s => (a.standing inline s).bind (b.standing inline)
  | either a b, s =>
    if a.standing inline s = b.standing inline s then a.standing inline s else none
  | must m _, s | rewind m, s | rewindSign m, s => m.standing inline s
  | optional m, s | many m, s =>
    if ¬ s.lineDue ∧ m.standing inline s = some s then some s else none

end Matcher

/-- Behind a nonterminal the same brackets are open as before it, and no line end is due. -/
theorem Rule.standing_matcher (rule : Rule) :
    ∀ due, (due = true → rule = .eolGroup) →
      rule.matcher.standing rule.inline ⟨[], due⟩ = some ⟨[], false⟩ :=
  of_all (by decide +kernel) rule

/-! ### What is derived -/

theorem BracketRole.moved_append {role : BracketRole} {openings openings' : List Bracket}
    (h : role.moved openings = some openings') (outer : List Bracket) :
    role.moved (openings ++ outer) = some (openings' ++ outer) := by
  cases role with
  | opening shape =>
    obtain rfl := Option.some_inj.mp h
    rfl
  | closing shape =>
    rw [moved_closing_eq_some_iff] at h ⊢
    rw [h, List.cons_append]
  | lineEnd | other =>
    obtain rfl := Option.some_inj.mp h
    rfl

/-- A token is read in the same way with further brackets around it, unless it must stand outside
of them. -/
theorem Standing.step_within {s s' : Standing} {role : BracketRole} {outer : List Bracket}
    (h : s.step role = some s') (houter : role.outside = true → .round ∉ outer) :
    (s.within outer).step role = some (s'.within outer) := by
  obtain ⟨hdue, hout, hmoved, hcurly⟩ := step_eq_some_iff.mp h
  refine step_eq_some_iff.mpr ⟨hdue, fun ho ↦ ?_, BracketRole.moved_append hmoved outer, hcurly⟩
  exact List.mem_append.not.mpr (not_or.mpr ⟨hout ho, houter ho⟩)

theorem TokenTest.scan_of_mem {test : TokenTest} {role : BracketRole} {w : List Token}
    (hrole : test.role? = some role) (hw : w ∈ test.language) (s : Standing) :
    s.scan w = s.step role := by
  obtain ⟨t, ht, rfl⟩ := hw
  rw [Standing.scan_singleton, Standing.read_of_role (role?_of_accepts ht hrole)]

theorem scan_of_mem_signs {w : List Token} (hw : w ∈ signs) (s : Standing) :
    s.scan w = s.step .other :=
  hw.elim (TokenTest.scan_of_mem rfl · s) (TokenTest.scan_of_mem rfl · s)

section Language

variable {lenient : Bool} {w : List Token}

/-- A token list of the language of a matcher is read to the standing behind the matcher, with any
brackets open around it if the matcher is a part of an expression, and else with curly ones. -/
theorem Matcher.scan_of_mem {L : Rule → Language Token}
    (hL : ∀ (name : Rule), ∀ w ∈ L name, ∀ s, name.Fits s → s.scan w = some ⟨s.openings, false⟩)
    {inline : Bool} {outer : List Bracket} (houter : inline = true ∨ .round ∉ outer) {m : Matcher}
    {s s' : Standing} (h : m.standing inline s = some s') (hw : w ∈ m.language lenient L) :
    (s.within outer).scan w = some (s'.within outer) := by
  induction m generalizing s s' w with
  | token test =>
    obtain ⟨role, hrole, h⟩ := Option.bind_eq_some_iff.mp h
    obtain ⟨hin, h⟩ := Option.ite_none_left_eq_some.mp h
    rw [TokenTest.scan_of_mem hrole hw]
    exact Standing.step_within h fun ho ↦ houter.resolve_left fun hi ↦ hin ⟨hi, ho⟩
  | keyword word =>
    rw [TokenTest.scan_of_mem (show TokenTest.role? ⟨.keyword, word⟩ = some .other from rfl) hw]
    exact Standing.step_within h (by simp [BracketRole.outside])
  | announce =>
    obtain rfl := Option.some_inj.mp h
    obtain rfl := (Language.mem_one _).mp hw
    rfl
  | rule name =>
    obtain ⟨⟨⟨hdue, hround⟩, hin⟩, h⟩ := Option.ite_none_right_eq_some.mp h
    obtain rfl := Option.some_inj.mp h
    refine hL name w hw (s.within outer) ⟨hdue, ?_⟩
    rcases houter with hi | ho
    · exact .inl (hin hi)
    · exact hround.imp_right fun hs ↦ List.mem_append.not.mpr (not_or.mpr ⟨hs, ho⟩)
  | both a b iha ihb =>
    obtain ⟨next, ha, hb⟩ := Option.bind_eq_some_iff.mp h
    obtain ⟨u, hu, v, hv, rfl⟩ := Language.mem_mul.mp hw
    exact Standing.scan_append_eq_some_iff.mpr ⟨next.within outer, iha ha hu, ihb hb hv⟩
  | either a b iha ihb =>
    obtain ⟨hab, h⟩ := Option.ite_none_right_eq_some.mp h
    exact hw.elim (iha h) (ihb (hab ▸ h))
  | must m _ ih | rewind m ih | rewindSign m ih => exact ih h hw
  | optional m ih =>
    obtain ⟨⟨hdue, hm⟩, h⟩ := Option.ite_none_right_eq_some.mp h
    obtain rfl := Option.some_inj.mp h
    rcases hw with (hw | hw) | hw
    · obtain rfl := (Language.mem_one _).mp hw
      rfl
    · exact ih hm hw
    · split at hw
      · -- A dropped sign is no bracket.
        rw [scan_of_mem_signs hw]
        refine Standing.step_eq_some_iff.mpr ⟨fun h ↦ absurd h hdue,
          by simp [BracketRole.outside], rfl, ?_⟩
        exact Bool.eq_false_iff.mpr hdue
      · exact absurd hw (Language.notMem_zero _)
  | many m ih =>
    obtain ⟨⟨hdue, hm⟩, h⟩ := Option.ite_none_right_eq_some.mp h
    obtain rfl := Option.some_inj.mp h
    obtain ⟨parts, rfl, hparts⟩ := Language.mem_kstar.mp hw
    clear hw
    induction parts with
    | nil => rfl
    | cons part parts ihparts =>
      rw [List.forall_mem_cons] at hparts
      exact Standing.scan_append_eq_some_iff.mpr
        ⟨s.within outer, ih hm hparts.1, ihparts hparts.2⟩

/-- What a nonterminal derives leaves the open brackets as it found them, with no line end due. -/
theorem Rule.scan_of_mem {rule : Rule} (hw : w ∈ rule.language lenient) {s : Standing}
    (hs : rule.Fits s) : s.scan w = some ⟨s.openings, false⟩ := by
  refine language_le
    (X := fun other ↦ {w | ∀ s, other.Fits s → s.scan w = some ⟨s.openings, false⟩})
    (fun other w _ hw s hs ↦ ?_) rule hw s hs
  exact Matcher.scan_of_mem (fun name w hw ↦ hw.1) hs.2 (other.standing_matcher s.lineDue hs.1) hw

theorem Rule.wellBracketed_of_mem {rule : Rule} (hw : w ∈ rule.language lenient) :
    WellBracketed w :=
  .of_scan (s := ⟨[], false⟩) (scan_of_mem hw ⟨by simp, .inr List.not_mem_nil⟩) rfl

end Language

/-! ### What is consumed -/

/-- The tokens that a run has consumed. -/
def Setup.consumed (setup : Setup) (s s' : State) : List Token :=
  (setup.tape.remaining s.cursor.position).take (s'.cursor.position - s.cursor.position)

/-- On a tape that ends, the tokens that a nonterminal has consumed when it matches lie on the tape
and are well bracketed, and an end of the input occurs among them at most as the last token of a
program. -/
theorem Rule.consumed_wellBracketed {setup : Setup} (hend : setup.tape.Ends) {rule : Rule}
    {s s' : State} (h : rule.run setup s = (.matched, s')) :
    s.cursor.position < s'.cursor.position ∧ s'.cursor.position ≤ setup.tape.size ∧
      WellBracketed (setup.consumed s s') ∧
      ∀ before t after, setup.consumed s s' = before ++ t :: after → t.kind = .endOfInput →
        rule = .program ∧ after = [] := by
  have hr := reads_of_run hend (v := .matched) h rfl
  obtain ⟨hlt, hsize⟩ := hr.le_size hend
  have hmem : setup.consumed s s' ∈ rule.language !setup.options.restoreSign := by
    rw [Setup.consumed, ← Tape.stretch_eq_take hsize]
    exact hr.derives
  exact ⟨hlt, hsize, wellBracketed_of_mem hmem,
    fun before t after hw ht ↦ eq_program_of_mem (hw ▸ hmem) ht⟩

/-- The tokens of a block with the statement `return (f(-))`, where signs are dropped. -/
def loneSignBlock : Setup :=
  ⟨.closing [⟨.symbol, "\x7b", 1, 1⟩, ⟨.endOfLine, "EOL", 1, 2⟩, ⟨.keyword, "return", 2, 1⟩,
      ⟨.symbol, "(", 2, 8⟩, ⟨.name, "f", 2, 9⟩, ⟨.symbol, "(", 2, 10⟩, ⟨.symbol, "-", 2, 11⟩,
      ⟨.symbol, ")", 2, 12⟩, ⟨.symbol, ")", 2, 13⟩, ⟨.endOfLine, "EOL", 2, 14⟩,
      ⟨.symbol, "\x7d", 3, 1⟩, ⟨.endOfLine, "EOL", 3, 2⟩] ⟨.endOfInput, "EOF", 4, 1⟩,
    ⟨true, false⟩⟩

/-- The whole block is consumed, with the dropped sign between two pairs of brackets, and no line
ends between the outer ones. -/
theorem Rule.loneSignBlock_consumed_wellBracketed :
    loneSignBlock.tape.Ends ∧
      ∃ s, Rule.block.run loneSignBlock (.start none) = (.matched, s) ∧
        loneSignBlock.consumed (.start none) s = loneSignBlock.tape.tokens.toList.take 12 ∧
        WellBracketed (loneSignBlock.tape.tokens.toList.take 12) := by
  have hend : loneSignBlock.tape.Ends := by decide +kernel
  have hmatched : (Rule.block.run loneSignBlock (.start none)).1 = .matched := by decide +kernel
  have hpos : (Rule.block.run loneSignBlock (.start none)).2.cursor.position = 12 := by
    decide +kernel
  generalize hrun : Rule.block.run loneSignBlock (.start none) = result at hmatched hpos
  obtain ⟨e, s⟩ := result
  obtain rfl : e = .matched := hmatched
  have hconsumed : loneSignBlock.consumed (.start none) s =
      loneSignBlock.tape.tokens.toList.take 12 :=
    congrArg (loneSignBlock.tape.tokens.toList.take ·) hpos
  obtain ⟨-, -, hbrackets, -⟩ := consumed_wellBracketed hend hrun
  exact ⟨hend, s, rfl, hconsumed, hconsumed ▸ hbrackets⟩

end Bugs
