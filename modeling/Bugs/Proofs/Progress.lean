import Bugs.Proofs.Matcher.Border
import Bugs.Proofs.Termination

/-!
# Progress and the end of the tape

Every nonterminal that is run on a tape that ends comes to an answer, whatever state it starts
from: it matches, it does not match or it fails. Where it matches it has read at least one token,
and however it ends it stands on the tape, unless it started past its end. The end of the input is
read by a program alone. A matcher that tests for no end of the input reads none
(`Reads.kind_ne_of_plain`), and any other reads one as its last token only
(`Reads.kind_ne_of_regular`), so that the positions stay on the tape.

## Main results

* `Reads.kind_ne_of_plain`, `Reads.kind_ne_of_regular`, `Rule.le_max_of_reads`.
* `Rule.run_answers`.
-/

namespace Bugs

variable {setup : Setup} {look : Nat → Token} {restore : Bool} {p q : Nat} {v : Verdict}

/-- A matcher that tests for no end of the input reads none. -/
theorem Reads.kind_ne_of_plain {m : Matcher} (h : Reads look restore m p v q)
    (hm : m.plain = true) {i : Nat} (hp : p ≤ i) (hq : i < q) : (look i).kind ≠ .endOfInput := by
  induction h with
  | @accept test p h =>
    obtain rfl : i = p := by omega
    simp only [TokenTest.accepts, Bool.and_eq_true, decide_eq_true_eq] at h
    rw [h.1]
    simpa [Matcher.plain] using hm
  | @keyword word p h =>
    obtain rfl : i = p := by omega
    simp only [TokenTest.accepts, Bool.and_eq_true, decide_eq_true_eq] at h
    simp [h.1]
  | refuse | noKeyword | announce | rewind => omega
  | @rule name _ _ _ _ ih => exact ih (name.plain_matcher (by simpa [Matcher.plain] using hm)) hp hq
  | bothStop _ _ ih | eitherStop _ _ ih =>
    simp only [Matcher.plain, Bool.and_eq_true] at hm
    exact ih hm.1 hp hq
  | @both _ _ _ q₁ _ _ _ _ iha ihb | @either _ _ _ q₁ _ _ _ _ iha ihb =>
    simp only [Matcher.plain, Bool.and_eq_true] at hm
    rcases Nat.lt_or_ge i q₁ with hlt | hge
    · exact iha hm.1 hp hlt
    · exact ihb hm.2 hge hq
  | @many _ _ q₁ _ _ _ _ ih ihr =>
    rcases Nat.lt_or_ge i q₁ with hlt | hge
    · exact ih hm hp hlt
    · exact ihr hm hge hq
  | rewindSign _ ih =>
    split at hq
    · omega
    · exact ih hm hp hq
  | mustStop _ _ ih | must _ ih | optionalStop _ _ ih | optional _ ih | manyStop _ ih
  | manyDone _ ih | rewindStop _ _ ih | rewindSignStop _ _ ih => exact ih hm hp hq

/-- A regular matcher reads the end of the input as its last token or not at all. -/
theorem Reads.kind_ne_of_regular {m : Matcher} (h : Reads look restore m p v q)
    (hm : m.regular = true) {i : Nat} (hp : p ≤ i) (hq : i + 1 < q) :
    (look i).kind ≠ .endOfInput := by
  induction h with
  | accept | keyword | refuse | noKeyword | announce | rewind => omega
  | @rule name _ _ _ _ ih => exact ih name.regular_matcher hp hq
  | bothStop _ _ ih =>
    simp only [Matcher.regular, Bool.and_eq_true] at hm
    exact ih hm.1.1 hp hq
  | @both _ _ _ q₁ _ _ ha _ _ ihb =>
    simp only [Matcher.regular, Bool.and_eq_true] at hm
    rcases Nat.lt_or_ge i q₁ with hlt | hge
    · exact ha.kind_ne_of_plain hm.2 hp hlt
    · exact ihb hm.1.2 hge hq
  | eitherStop _ _ ih =>
    simp only [Matcher.regular, Bool.and_eq_true] at hm
    exact ih hm.1.1.1 hp hq
  | either ha _ _ ihb =>
    -- the first alternative has read nothing
    simp only [Matcher.regular, Bool.and_eq_true, Bool.not_eq_true'] at hm
    rw [ha.stays hm.1.2 hm.2] at ihb
    exact ihb hm.1.1.2 hp hq
  | manyStop h ih =>
    simp only [Matcher.regular, Bool.and_eq_true] at hm
    exact ih hm.1.1.1.1 hp hq
  | manyDone h ih =>
    simp only [Matcher.regular, Bool.and_eq_true] at hm
    exact ih hm.1.1.1.1 hp hq
  | @many _ _ q₁ _ _ h _ _ ihr =>
    rcases Nat.lt_or_ge i q₁ with hlt | hge
    · simp only [Matcher.regular, Bool.and_eq_true] at hm
      exact h.kind_ne_of_plain hm.2 hp hlt
    · exact ihr hm hge hq
  | rewindSign _ ih =>
    split at hq
    · omega
    · exact ih hm hp hq
  | mustStop _ _ ih | must _ ih | optionalStop _ _ ih | optional _ ih =>
    simp only [Matcher.regular, Bool.and_eq_true] at hm
    exact ih hm.1 hp hq
  | rewindStop _ _ ih | rewindSignStop _ _ ih => exact ih hm hp hq

/-- A nonterminal that is run on a tape that ends stays on the tape, or where it started past the
end. -/
theorem Rule.le_max_of_reads {tape : Tape} (hend : tape.Ends) {rule : Rule}
    (h : Reads tape.look restore (.rule rule) p v q) : q ≤ max p tape.size := by
  rcases Nat.lt_or_ge (p + 1) tape.size with hlt | hge
  · refine Nat.le_trans (Nat.le_of_not_lt fun hq ↦ ?_) (Nat.le_max_right ..)
    -- otherwise the last token of the tape lies inside of what was read
    exact h.kind_ne_of_regular rfl (i := tape.size - 1) (by omega) (by omega)
      (hend.kind_look (by omega))
  · have hstays : Reads tape.look restore (.rule rule) p .unmatched p :=
      rule.reads_of_not_starts (rule.starts_of_kind (hend.kind_look hge))
    obtain ⟨-, rfl⟩ := h.deterministic hstays
    exact Nat.le_max_left ..

theorem Ending.eq_of_verdict? {e : Ending} (h : e.verdict? = some v) :
    e = .matched ∨ e = .unmatched ∨ ∃ d, e = .failed d := by
  cases e with
  | matched => exact .inl rfl
  | unmatched => exact .inr (.inl rfl)
  | failed d => exact .inr (.inr ⟨d, rfl⟩)
  | offTape | nothingFetched | exhausted => cases h

/-- On a tape that ends, every nonterminal comes to an answer from every state: the run is finished,
and it has matched, not matched or failed. It has read at least one token if it matched, and it
stands on the tape or where it started past the end. Only a program reads an end of the input. -/
theorem Rule.run_answers (hend : setup.tape.Ends) (rule : Rule) (s : State) :
    ∃ e s', rule.run setup s = (e, s') ∧ Runs setup (.rule rule) s e s' ∧
      (e = .matched ∨ e = .unmatched ∨ ∃ d, e = .failed d) ∧
      (e = .matched → s.cursor.position < s'.cursor.position) ∧
      s.cursor.position ≤ s'.cursor.position ∧
      s'.cursor.position ≤ max s.cursor.position setup.tape.size ∧
      (rule ≠ .program →
        ∀ t ∈ stretch setup.tape.look s.cursor.position s'.cursor.position,
          t.kind ≠ .endOfInput) := by
  obtain ⟨v, hv, hr⟩ := rule.reads_run hend s
  refine ⟨(rule.run setup s).1, (rule.run setup s).2, rfl, rule.runs_run hend s, ?_, fun he ↦ ?_,
    hr.le, le_max_of_reads hend hr, fun hprogram t ht ↦ ?_⟩
  · exact Ending.eq_of_verdict? hv
  · rw [he] at hv
    cases hv
    exact hr.lt_of_matched
  · obtain ⟨i, hp, hq, rfl⟩ := mem_stretch.mp ht
    exact hr.kind_ne_of_plain (by simpa [Matcher.plain] using hprogram) hp hq

/-- A color statement that ends with the tape fails at the end of the input and does not read it.
The trace is there, and a fetch from before the run could be taken back. -/
theorem Rule.color_stops_at_end :
    let setup : Setup :=
      ⟨.closing [⟨.endOfInput, "EOF", 1, 1⟩, ⟨.keyword, "color", 1, 1⟩] ⟨.endOfInput, "EOF", 1, 6⟩,
        ⟨true, false⟩⟩
    let s : State := ⟨⟨1, 1, some 1⟩, some (.empty .debug)⟩
    setup.tape.Ends ∧
      (∃ d s', Rule.colorStatement.run setup s = (.failed d, s') ∧ s'.cursor.position = 2) ∧
      ∀ t ∈ stretch setup.tape.look 1 2, t.kind ≠ .endOfInput := by
  intro setup s
  have hend : setup.tape.Ends := by decide +kernel
  obtain ⟨e, s', hrun, -, -, -, -, -, hread⟩ := run_answers hend .colorStatement s
  have hpos : s'.cursor.position = 2 := by
    have hrunPos : (Rule.colorStatement.run setup s).2.cursor.position = 2 := by decide +kernel
    rwa [hrun] at hrunPos
  have hfailed : e = .failed ⟨.expected .colorName (.quoted "color"), 1, some 6, .endOfInput,
      "EOF"⟩ := by
    have hrunEnding : (Rule.colorStatement.run setup s).1 = .failed
        ⟨.expected .colorName (.quoted "color"), 1, some 6, .endOfInput, "EOF"⟩ := by
      decide +kernel
    rwa [hrun] at hrunEnding
  rw [hpos] at hread
  exact ⟨hend, ⟨_, s', hfailed ▸ hrun, hpos⟩, hread (by decide)⟩

end Bugs
