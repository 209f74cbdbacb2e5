import Bugs.Proofs.Acceptance
import Bugs.Proofs.Matcher.Locality

/-!
# The first error

A complaint about a program comes as early as possible. The tokens in front of the cursor still
begin some accepted program, and with the token at the cursor they no longer do. At the tokens
where a matcher may have gone back over one token, the mistake may be one token further on.

The first half completes what was read construct by construct (`Reads.exists_completion`). The
second half is locality: a tape with the same tokens up to where the matchers looked is read in the
same way, so it is not accepted.

## Main definitions

* `Viable`: the beginnings of accepted programs.
* `Token.hidesError`: the tokens in front of which a complaint may come too early by one.

## Main results

* `Rule.program_fails_at_first_error`.
-/

namespace Bugs

variable {setup : Setup}

/-- The tokens begin a tape that ends once and is accepted as a program. -/
def Viable (options : Options) (tokens : List Token) : Prop :=
  ∃ tape : Tape, tape.EndsOnce ∧ tokens <+: tape.tokens.toList ∧
    (Rule.program.run ⟨tape, options⟩ (.start none)).1 = .matched

/-- The tokens over which a matcher may have gone back: the keyword `define`, an exclamation mark
and, where signs are restored, a sign. -/
def Token.hidesError (options : Options) (t : Token) : Bool :=
  TokenTest.accepts ⟨.keyword, some "define"⟩ t || TokenTest.accepts ⟨.symbol, some "!"⟩ t ||
    (options.restoreSign && t.isSign)

theorem Token.hidesError_eq_passes (options : Options) (t : Token) :
    t.hidesError options = t.passes (Rule.program.glances options.restoreSign) := by
  rw [hidesError, isSign_eq_passes, Rule.glances]
  · cases options.restoreSign <;> simp [passes, Bool.or_assoc]
  all_goals simp

theorem Token.kind_ne_of_hidesError {options : Options} {t : Token}
    (h : t.hidesError options = true) : t.kind ≠ .endOfInput := by
  intro hkind
  simp [hidesError, isSign, TokenTest.accepts, hkind] at h

theorem viable_of_derives {options : Options} {v w : List Token}
    (h : Rule.program.Derives (!options.restoreSign) (v ++ w)) : Viable options v := by
  obtain ⟨body, last, hvw, hbody, hlast⟩ :=
    Rule.eq_append_of_mem_program (Rule.mem_language.mpr h)
  have hend := Tape.endsOnce_closing hbody hlast
  refine ⟨.closing body last, hend, ?_, ?_⟩
  · rw [Tape.toList_closing, ← hvw]
    exact List.prefix_append v w
  · rw [Rule.program_matched_iff hend options rfl, Tape.toList_closing, ← hvw]
    exact h

/-- A tape that is read like one on which a program fails is not accepted. -/
private theorem Reads.not_viable {c : Complaint} {p n : Nat}
    (h : Reads setup.tape.look setup.options.restoreSign (.rule .program) 0 (.failed c) p)
    (hp : p < n) (hsize : p < setup.tape.size)
    (hbehind : (setup.tape.look p).hidesError setup.options = true →
      p + 1 < n ∧ p + 1 < setup.tape.size) :
    ¬ Viable setup.options (setup.tape.tokens.toList.take n) := by
  rintro ⟨tape, hend, hpre, hmatched⟩
  have hagree : Agree setup.tape.look tape.look
      (Rule.program.glances setup.options.restoreSign) 0 p := by
    refine ⟨fun i _ hi ↦ Tape.look_eq_of_take hpre (by omega) (by omega), fun hglance ↦ ?_⟩
    rw [← Token.hidesError_eq_passes] at hglance
    obtain ⟨hn, hsize'⟩ := hbehind hglance
    exact Tape.look_eq_of_take hpre hn hsize'
  let setup' : Setup := ⟨tape, setup.options⟩
  have hends : setup'.tape.Ends := hend.ends
  have hr : Reads tape.look setup.options.restoreSign (.rule .program) 0 .matched _ :=
    Rule.reads_of_run hends (Prod.ext hmatched rfl) rfl
  cases ((h.of_agree rfl hagree).deterministic hr).1

/-- A program that fails does so in front of a token of the tape. -/
theorem Reads.lt_size_of_failed {c : Complaint} {p : Nat} (hend : setup.tape.EndsOnce)
    (h : Reads setup.tape.look setup.options.restoreSign (.rule .program) 0 (.failed c) p) :
    p < setup.tape.size := by
  refine Nat.lt_of_not_le fun hle ↦ ?_
  obtain ⟨z, hz⟩ := h.exists_completion rfl rfl
  rw [← stretch_append _ (Nat.zero_le _) hle, Tape.stretch_all, List.append_assoc] at hz
  rcases List.eq_nil_or_concat (stretch setup.tape.look setup.tape.size p ++ z) with
    hrest | ⟨rest, t, hrest⟩
  · -- the whole tape was read, and it is derived, so the program matches
    rw [hrest, List.append_nil] at hz
    have hr := Rule.consumes hz setup.tape.look 0
      (by simpa [Tape.size] using setup.tape.stretch_all) rfl
    cases (h.deterministic hr).1
  · -- the end of the tape lies inside of a program
    rw [hrest] at hz
    obtain ⟨body, last, hw, hbody, -⟩ := Rule.eq_append_of_mem_program hz
    rw [List.concat_eq_append, ← List.append_assoc] at hw
    obtain ⟨hinit, -⟩ := List.append_inj' hw rfl
    have hpos : 0 < setup.tape.size := setup.tape.nonempty
    have hmem : setup.tape.look (setup.tape.size - 1) ∈ setup.tape.tokens.toList := by
      rw [← Tape.stretch_all]
      exact mem_stretch.mpr ⟨_, Nat.zero_le _, by omega, rfl⟩
    exact hbody _ (hinit ▸ List.mem_append_left rest hmem) hend.ends

/-- Where a program that is run from the beginning of a tape fails, the tokens in front of the
cursor are viable. With the token at the cursor they are not, unless a matcher may have gone back
over that token, and with one token more they never are. -/
theorem Rule.program_fails_at_first_error (hend : setup.tape.EndsOnce) (s s' : State)
    (d : Diagnostic) (hs : s.cursor.position = 0)
    (h : Rule.program.run setup s = (.failed d, s')) :
    s'.cursor.position < setup.tape.size ∧
      Viable setup.options (setup.tape.tokens.toList.take s'.cursor.position) ∧
      ((s'.cursor.peek setup.tape).hidesError setup.options = false →
        ¬ Viable setup.options (setup.tape.tokens.toList.take (s'.cursor.position + 1))) ∧
      ¬ Viable setup.options (setup.tape.tokens.toList.take (s'.cursor.position + 2)) := by
  have hr := reads_of_run hend.ends (v := .failed d.complaint) h rfl
  rw [hs] at hr
  have hsize := hr.lt_size_of_failed hend
  refine ⟨hsize, ?_, fun hhides ↦ ?_, ?_⟩
  · obtain ⟨z, hz⟩ := hr.exists_completion rfl rfl
    rw [Tape.stretch_zero hsize.le] at hz
    exact viable_of_derives hz
  · refine hr.not_viable (Nat.lt_succ_self _) hsize fun hh ↦ ?_
    cases hhides.symm.trans hh
  · refine hr.not_viable (by omega) hsize fun hh ↦ ⟨by omega, ?_⟩
    -- the tape does not end with a token that hides an error
    have hlast := mt (hend _ hsize).mpr (Token.kind_ne_of_hidesError hh)
    omega

/-- A definition without a name is complained about in front of the word `define`, although a
program may go on with that word there. Only the number behind it is wrong. -/
theorem Rule.nameless_define_hides_error :
    let token (kind : TokenKind) (text : String) : Token := ⟨kind, text, 1, 1⟩
    let opening := [token .keyword "Bug", token .name "b", token .symbol "\x7b",
      token .endOfLine "\n", token .keyword "move", token .number "1", token .endOfLine "\n"]
    let options : Options := ⟨false, false⟩
    let tape := Tape.closing (opening ++ [token .keyword "define", token .number "5"])
      (token .endOfInput "EOF")
    tape.EndsOnce ∧
      (∃ d s, Rule.program.run ⟨tape, options⟩ (.start none) = (.failed d, s) ∧
        s.cursor.position = 7) ∧
      Viable options (opening ++ [token .keyword "define"]) ∧
      ¬ Viable options (opening ++ [token .keyword "define", token .number "5"]) := by
  intro token opening options tape
  have hend : tape.EndsOnce := by decide +kernel
  let d : Diagnostic := ⟨.closeBrace .bug, 1, none, .keyword, "define"⟩
  have hfailed : (Rule.program.run ⟨tape, options⟩ (.start none)).1 = .failed d := by
    decide +kernel
  have hpos : (Rule.program.run ⟨tape, options⟩ (.start none)).2.cursor.position = 7 := by
    decide +kernel
  generalize hrun : Rule.program.run ⟨tape, options⟩ (.start none) = result at hfailed hpos
  obtain ⟨e, s⟩ := result
  obtain rfl : e = .failed d := hfailed
  obtain ⟨-, -, -, hnot⟩ := program_fails_at_first_error hend _ _ d rfl hrun
  rw [show s.cursor.position = 7 from hpos] at hnot
  refine ⟨hend, ⟨d, s, rfl, hpos⟩, ⟨.closing (opening ++ [token .keyword "define",
    token .name "f", token .symbol "\x7b", token .endOfLine "\n", token .symbol "\x7d",
    token .endOfLine "\n", token .symbol "\x7d", token .endOfLine "\n"])
    (token .endOfInput "EOF"), ?_, ?_, ?_⟩, hnot⟩
  all_goals decide +kernel

end Bugs
