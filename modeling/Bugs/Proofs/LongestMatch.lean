import Bugs.Proofs.Acceptance
import Bugs.Proofs.Grammar.LastToken
import Bugs.Proofs.Matcher.Locality

/-!
# The longest match

A nonterminal that matches, at any place of a tape and whatever comes next there, has read the
longest list of the tokens ahead that the grammar derives from it, and one that does not match
stands in front of no such list.

This is a consequence of completeness and locality. A derived list is read in front of an end of
the input. If a reading stopped before the end of such a list, it would look at no token behind
the list, since it stops at none of the tokens that end a list and are glanced behind; so it
would go the same way in front of an end of the input (`Reads.le_of_mem`).

## Main definitions

* `Setup.Candidate`: the derived lists ahead of a position.

## Main results

* `Reads.le_of_mem`, `Reads.notMem_of_unmatched`.
* `Rule.run_is_longest`.
-/

namespace Bugs

variable {look : Nat → Token} {restore : Bool} {rule : Rule} {p q : Nat} {v : Verdict}
  {w : List Token}

/-- A reading goes at least as far as every derived list ahead, whatever its verdict is. -/
theorem Reads.le_of_mem (h : Reads look restore (.rule rule) p v q)
    (hmem : w ∈ rule.language (!restore)) (hw : stretch look p (p + w.length) = w) :
    p + w.length ≤ q := by
  refine Nat.le_of_not_lt fun hlt ↦ ?_
  -- the same stream, but with an end of the input behind the list
  let cut : Nat → Token := fun i ↦ if i < p + w.length then look i else ⟨.endOfInput, "", 0, 0⟩
  have hcut {i : Nat} (hi : i < p + w.length) : cut i = look i := if_pos hi
  have hread : Reads cut restore (.rule rule) p .matched (p + w.length) := by
    refine Rule.reads_of_mem hmem ?_ (by simp [cut])
    exact (stretch_congr fun i _ hi ↦ hcut hi).trans hw
  have hagree : Agree look cut (rule.glances restore) p q := by
    refine ⟨fun i _ hi ↦ hcut (by omega), fun hglance ↦ ?_⟩
    rcases Nat.lt_or_ge (q + 1) (p + w.length) with hnext | hnext
    · exact hcut hnext
    · have hlast : look q ∈ w.getLast? := by
        rw [← hw, show p + w.length = q + 1 by omega]
        exact getLast?_stretch look h.le
      have hpass := Rule.passes_last_of_mem hmem hlast
      rw [Token.passes_of_apart (rule.last_apart restore) hpass] at hglance
      cases hglance
  obtain ⟨-, hq⟩ := (h.of_agree rfl hagree).deterministic hread
  omega

/-- A reading that does not match stands in front of no derived list. -/
theorem Reads.notMem_of_unmatched (h : Reads look restore (.rule rule) p .unmatched q)
    (hw : stretch look p (p + w.length) = w) : w ∉ rule.language (!restore) := by
  intro hmem
  have hle := h.le_of_mem hmem hw
  cases w with
  | nil => exact rule.nil_notMem_language _ hmem
  | cons t w =>
    rw [List.length_cons] at hle
    rcases h.stays_or_drops rfl with rfl | ⟨-, hd, rfl, hs, -⟩
    · omega
    · -- the dropped sign alone is no expression
      obtain rfl : w = [] := List.length_eq_zero_iff.mp (by omega)
      obtain rfl := look_of_stretch_eq_cons hw
      have hlast := rule.passes_last_of_mem hmem (t := look p) rfl
      have hap : testsApart Rule.sign.first rule.last = true := by
        revert hd
        exact Rule.of_all (by decide +kernel) rule
      rw [Token.isSign_eq_passes, Token.passes_of_apart hap hlast] at hs
      cases hs

/-- The list is one of the tokens ahead of a position, and the grammar derives it. -/
def Setup.Candidate (setup : Setup) (rule : Rule) (p : Nat) (w : List Token) : Prop :=
  w <+: setup.tape.remaining p ∧ rule.Derives (!setup.options.restoreSign) w

section Tape

variable {setup : Setup}

theorem Setup.Candidate.stretch_eq (h : setup.Candidate rule p w) :
    stretch setup.tape.look p (p + w.length) = w := by
  obtain ⟨hpre, hd⟩ := h
  have hpos : 0 < w.length :=
    List.length_pos_iff.mpr fun hw ↦ rule.nil_notMem_language _ (hw ▸ Rule.mem_language.mpr hd)
  have hle : p + w.length ≤ setup.tape.size := by
    have hlen := hpre.length_le
    simp only [Tape.remaining, List.length_drop, Array.length_toList] at hlen
    simp only [Tape.size]
    omega
  rw [Tape.stretch_eq_take hle, Nat.add_sub_cancel_left, ← List.prefix_iff_eq_take.mp hpre]

/-- A nonterminal that matches has read the longest of the candidates, and one that does not
match has none. -/
theorem Rule.run_is_longest (hend : setup.tape.EndsOnce) (rule : Rule) (s s' : State) :
    (rule.run setup s = (.matched, s') →
      s.cursor.position < s'.cursor.position ∧ s'.cursor.position ≤ setup.tape.size ∧
      setup.Candidate rule s.cursor.position ((setup.tape.remaining s.cursor.position).take
        (s'.cursor.position - s.cursor.position)) ∧
      ∀ w, setup.Candidate rule s.cursor.position w →
        w.length ≤ s'.cursor.position - s.cursor.position) ∧
    (rule.run setup s = (.unmatched, s') → ∀ w, ¬ setup.Candidate rule s.cursor.position w) := by
  constructor
  · intro h
    have hr := reads_of_run hend.ends (v := .matched) h rfl
    obtain ⟨hlt, hsize⟩ := hr.le_size hend.ends
    refine ⟨hlt, hsize, ⟨List.take_prefix .., ?_⟩, fun w hw ↦ ?_⟩
    · rw [← Tape.stretch_eq_take hsize]
      exact hr.derives
    · have hle := hr.le_of_mem hw.2 hw.stretch_eq
      omega
  · intro h w hw
    have hr := reads_of_run hend.ends (v := .unmatched) h rfl
    exact hr.notMem_of_unmatched hw.stretch_eq hw.2

/-- The tokens of `a <= b !` where signs are restored. -/
def loneMark : Setup :=
  ⟨.closing [⟨.name, "a", 1, 1⟩, ⟨.symbol, "<", 1, 3⟩, ⟨.symbol, "=", 1, 4⟩, ⟨.name, "b", 1, 6⟩,
    ⟨.symbol, "!", 1, 8⟩] ⟨.endOfInput, "EOF", 1, 9⟩, ⟨false, true⟩⟩

/-- In front of a lone exclamation mark an expression ends, with the whole comparison read. -/
theorem Rule.comparison_before_lone_mark :
    loneMark.tape.EndsOnce ∧
      (∃ s, Rule.expression.run loneMark (.start none) = (.matched, s)) ∧
      loneMark.Candidate .expression 0 ((loneMark.tape.remaining 0).take 4) ∧
      ∀ w, loneMark.Candidate .expression 0 w → w.length ≤ 4 := by
  have hend : loneMark.tape.EndsOnce := by decide +kernel
  have hmatched : (Rule.expression.run loneMark (.start none)).1 = .matched := by decide +kernel
  have hpos : (Rule.expression.run loneMark (.start none)).2.cursor.position = 4 := by
    decide +kernel
  generalize hrun : Rule.expression.run loneMark (.start none) = result at hmatched hpos
  obtain ⟨e, s⟩ := result
  obtain rfl : e = .matched := hmatched
  obtain ⟨-, -, hread, hlongest⟩ := (run_is_longest hend .expression _ s).1 hrun
  rw [show s.cursor.position = 4 from hpos] at hread hlongest
  exact ⟨hend, ⟨s, rfl⟩, hread, hlongest⟩

end Tape

end Bugs
