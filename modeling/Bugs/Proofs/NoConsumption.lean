import Bugs.Proofs.Termination

/-!
# What is left behind where nothing matches

A nonterminal that does not match leaves the position and the line counter as they were, whatever
it fetched and put back on the way. The one exception is a sign in front of an expression or an
arithmetic expression that no term follows: unless the options restore it, it stays behind the
cursor, and the line counter is still the same. Run again at once, the nonterminal does not match
again, and it moves no further.

## Main definitions

* `State.SamePlace`, `Setup.DropsSign`: the two ways in which a state may be left behind.

## Main results

* `Rule.unmatched_stays_and_retries`.
-/

namespace Bugs

variable {setup : Setup}

/-- The two states have the same position and the same line counter. -/
def State.SamePlace (s s' : State) : Prop :=
  s'.cursor.position = s.cursor.position ∧ s'.cursor.line = s.cursor.line

/-- The nonterminal is one that may drop a sign, signs are not restored, and from one state to the
other the cursor moves over one sign and no line is counted. -/
def Setup.DropsSign (setup : Setup) (rule : Rule) (s s' : State) : Prop :=
  (rule = .expression ∨ rule = .arithmeticExpression) ∧ setup.options.restoreSign = false ∧
    (s.cursor.peek setup.tape).isSign = true ∧
    s'.cursor.position = s.cursor.position + 1 ∧ s'.cursor.line = s.cursor.line

theorem Setup.lineBehind_sign {t : Token} (h : t.isSign = true) (line : Int) :
    setup.lineBehind line [t] = line := by
  have hkind : t.kind = .symbol := by
    simp only [Token.isSign, TokenTest.accepts, Bool.or_eq_true, Bool.and_eq_true,
      decide_eq_true_eq] at h
    exact h.elim And.left And.left
  simp [lineBehind, hkind]

theorem Runs.samePlace_of_position_eq {m : Matcher} {s s' : State} {e : Ending}
    (h : Runs setup m s e s') (hp : s'.cursor.position = s.cursor.position) : s.SamePlace s' := by
  refine ⟨hp, ?_⟩
  rw [h.line_eq, hp, stretch_self, Setup.lineBehind_nil]

/-- A nonterminal that does not match on a tape that ends leaves the position and the line counter
as they were, or it drops a sign. Run again at once it does not match again, and then it leaves
both as they are. -/
theorem Rule.unmatched_stays_and_retries (hend : setup.tape.Ends) (rule : Rule) (s s' : State)
    (h : rule.run setup s = (.unmatched, s')) :
    (s.SamePlace s' ∨ setup.DropsSign rule s s') ∧
      ∃ s'', rule.run setup s' = (.unmatched, s'') ∧ s'.SamePlace s'' := by
  have hruns : Runs setup (.rule rule) s .unmatched s' := by
    have hr := rule.runs_run hend s
    rwa [h] at hr
  have hreads := hruns.reads (v := .unmatched) rfl
  constructor
  · rcases hreads.stays_or_drops rfl with hp | ⟨hrestore, hd, hp, hs, -⟩
    · exact .inl (hruns.samePlace_of_position_eq hp)
    · refine .inr ⟨by simpa [Matcher.drops, dropsSign] using hd, hrestore, hs, hp, ?_⟩
      rw [hruns.line_eq, hp, stretch_succ, Setup.lineBehind_sign hs]
  · obtain ⟨hv, hp⟩ := run_of_reads hend (s := s') (reads_again hreads)
    exact ⟨_, Prod.ext (Ending.verdict?_eq_unmatched.mp hv) rfl,
      (rule.runs_run hend s').samePlace_of_position_eq hp⟩

/-- A lone plus sign is dropped by the first attempt to read an expression; the second one leaves
the cursor behind the sign. -/
theorem Rule.lone_sign_dropped_once :
    let setup : Setup :=
      ⟨.closing [⟨.symbol, "+", 1, 1⟩] ⟨.endOfInput, "EOF", 1, 2⟩, ⟨false, false⟩⟩
    setup.tape.Ends ∧ ∃ s' s'', Rule.expression.run setup (.start none) = (.unmatched, s') ∧
      s'.cursor.position = 1 ∧ Rule.expression.run setup s' = (.unmatched, s'') ∧
      s'.SamePlace s'' := by
  intro setup
  have hend : setup.tape.Ends := by decide +kernel
  have hrun : Rule.expression.run setup (.start none) =
      (.unmatched, (Rule.expression.run setup (.start none)).2) :=
    Prod.ext (by decide +kernel) rfl
  obtain ⟨-, s'', hagain, hplace⟩ := unmatched_stays_and_retries hend .expression _ _ hrun
  exact ⟨hend, _, s'', hrun, by decide +kernel, hagain, hplace⟩

end Bugs
