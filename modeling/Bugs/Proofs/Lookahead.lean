import Bugs.Proofs.Matcher.Face
import Bugs.Proofs.Matcher.Locality
import Bugs.Proofs.Termination

/-!
# How far a run looks ahead

What a run of a nonterminal comes to is decided by the tokens that it has read and by two more: the
one where it stops and the one behind that. Whatever stands in front of the place where the run
starts, whatever follows these tokens and at whichever position they begin, the answer is the same,
and the run reads as many tokens.

Two facts about readings are put together here. A reading does not change if the tokens behind its
window do (`Reads.of_agree`), and it can be carried to where the same tokens begin at another
position (`Reads.carry`).

## Main results

* `Reads.of_window`: the two facts in one.
* `Rule.run_decided_by_window`.
-/

namespace Bugs

/-- A nonterminal reads two streams alike, from possibly different positions, if they agree on the
tokens that are read on one of them and on two more. -/
theorem Reads.of_window {look look' : Nat → Token} {restore : Bool} {rule : Rule} {p p' n : Nat}
    {v : Verdict} (h : Reads look restore (.rule rule) p v (p + n))
    (hwindow : ∀ i < n + 2, look' (p' + i) = look (p + i)) :
    Reads look' restore (.rule rule) p' v (p' + n) := by
  -- the tokens from `p'` on, moved to where the first stream is read
  let moved (i : Nat) : Token := look' (p' + (i - p))
  have hmoved {i : Nat} (hp : p ≤ i) (hi : i < p + n + 2) : moved i = look i := by
    obtain ⟨k, rfl⟩ := Nat.exists_eq_add_of_le hp
    simpa only [moved, Nat.add_sub_cancel_left] using hwindow k (by omega)
  have hagree : Agree look moved ((Matcher.rule rule).glances restore) p (p + n) :=
    ⟨fun i hp hi ↦ hmoved hp (by omega), fun _ ↦ hmoved (by omega) (by omega)⟩
  have hfaces : SameFaces moved look' (fun i ↦ p' + (i - p)) p := by
    refine ⟨fun i hi ↦ ?_, fun _ _ ↦ rfl⟩
    rw [Nat.sub_add_comm hi, Nat.add_assoc]
  have hcarried := (h.of_agree rfl hagree).carry rfl hfaces
  rwa [Nat.sub_self, Nat.add_sub_cancel_left, Nat.add_zero] at hcarried

/-- The details of a failure are those of the token where the run stops. -/
theorem Runs.details_eq {setup : Setup} {m : Matcher} {s s' : State} {d : Diagnostic}
    (h : Runs setup m s (.failed d) s') :
    d.details = [("error_id", .string "parse.syntax"),
      ("token_kind", .string (setup.tape.look s'.cursor.position).kind.label),
      ("token_text", .string (setup.tape.look s'.cursor.position).text)] := by
  rw [h.diagnostic_eq]
  rfl

/-- The answer of a nonterminal that is run on a tape that ends depends on the tokens that the run
reads and on two more. On every other tape that ends and from every position where the same tokens
come next, the nonterminal comes to the same answer, with the same message and details if it fails,
and reads as many tokens. -/
theorem Rule.run_decided_by_window {tape : Tape} (hend : tape.Ends) (options : Options)
    (rule : Rule) (s : State) :
    ∃ n, (rule.run ⟨tape, options⟩ s).2.cursor.position = s.cursor.position + n ∧
      ∀ tape' : Tape, tape'.Ends → ∀ s' : State,
        (∀ i < n + 2,
          tape'.look (s'.cursor.position + i) = tape.look (s.cursor.position + i)) →
        Ending.SameAnswer (fun d d' ↦ d'.message = d.message ∧ d'.details = d.details)
            (rule.run ⟨tape, options⟩ s).1 (rule.run ⟨tape', options⟩ s').1 ∧
          (rule.run ⟨tape', options⟩ s').2.cursor.position = s'.cursor.position + n := by
  let setup : Setup := ⟨tape, options⟩
  have hends : setup.tape.Ends := hend
  obtain ⟨v, hv, hr⟩ := rule.reads_run hends s
  obtain ⟨n, hn⟩ := Nat.exists_eq_add_of_le hr.le
  refine ⟨n, hn, fun tape' hend' s' hwindow ↦ ?_⟩
  let setup' : Setup := ⟨tape', options⟩
  have hends' : setup'.tape.Ends := hend'
  rw [hn] at hr
  have hr' : Reads setup'.tape.look setup'.options.restoreSign (.rule rule) s'.cursor.position v
      (s'.cursor.position + n) := hr.of_window hwindow
  obtain ⟨hv', hp⟩ := run_of_reads hends' hr'
  have hlook : setup'.tape.look (rule.run setup' s').2.cursor.position =
      setup.tape.look (rule.run setup s).2.cursor.position := by
    rw [hp, hn]
    exact hwindow n (by omega)
  refine ⟨Ending.sameAnswer_of_verdict? hv hv' fun d d' hd hd' hc ↦
    ⟨congrArg Complaint.message hc, ?_⟩, hp⟩
  rw [(runs_of_run hends (Prod.ext hd rfl)).details_eq,
    (runs_of_run hends' (Prod.ext hd' rfl)).details_eq, hlook]

/-- A `move` without an expression fails at the line end, whatever stands in front of it and
whatever comes behind the brace that follows. -/
theorem Rule.move_fails_alike_elsewhere :
    let move : Token := ⟨.keyword, "move", 2, 1⟩
    let lineEnd : Token := ⟨.endOfLine, "\n", 2, 5⟩
    let brace : Token := ⟨.symbol, "\x7d", 3, 1⟩
    let tape := Tape.closing [move, lineEnd, brace] ⟨.endOfInput, "EOF", 3, 2⟩
    let tape' := Tape.closing [⟨.number, "1", 1, 1⟩, move, lineEnd, brace, move]
      ⟨.endOfInput, "EOF", 9, 9⟩
    let run := Rule.moveAction.run ⟨tape, ⟨true, true⟩⟩ (.start none)
    let run' := Rule.moveAction.run ⟨tape', ⟨true, true⟩⟩ ⟨⟨1, 7, some 3⟩, none⟩
    tape.Ends ∧ tape'.Ends ∧ run.2.cursor.position = 1 ∧ run'.2.cursor.position = 2 ∧
      ∃ d d', run.1 = .failed d ∧ run'.1 = .failed d' ∧ d'.message = d.message ∧
        d'.details = d.details := by
  intro move lineEnd brace tape tape' run run'
  have hend : tape.Ends := by decide +kernel
  have hend' : tape'.Ends := by decide +kernel
  have hpos : run.2.cursor.position = 1 := by decide +kernel
  have hfailed : run.1 = .failed ⟨.actionExpression .move, 1, some 5, .endOfLine, "\n"⟩ := by
    decide +kernel
  obtain ⟨n, hn, hwindow⟩ := run_decided_by_window hend ⟨true, true⟩ .moveAction (.start none)
  obtain rfl : n = 1 := by
    have hsum : 1 = 0 + n := hpos.symm.trans hn
    omega
  obtain ⟨hanswer, hpos'⟩ := hwindow tape' hend' ⟨⟨1, 7, some 3⟩, none⟩ (by decide +kernel)
  obtain ⟨d', hfailed', hmessage, hdetails⟩ := (hfailed ▸ hanswer).exists_failed
  exact ⟨hend, hend', hpos, hpos', _, d', hfailed, hfailed', hmessage, hdetails⟩

end Bugs
