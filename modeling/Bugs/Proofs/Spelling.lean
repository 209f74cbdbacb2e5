import Bugs.Proofs.Acceptance
import Bugs.Proofs.Matcher.Face

/-!
# Spelling and layout

How names, numbers and quoted texts are spelled and where the tokens of a program stand does not
affect the verdict on it. Two tapes with the same faces are read alike, so a nonterminal that is run
on both from the same position comes to the same answer, with the same message if it fails, and
stops at the same position. Two program texts whose tokens have the same faces are therefore checked
with the same outcome and the same message.

## Main definitions

* `Tape.faces`: the faces of the tokens of a tape.

## Main results

* `spelling_and_layout_immaterial`.
-/

namespace Bugs

namespace Tape

/-- The faces of the tokens. -/
def faces (tape : Tape) : List (TokenKind × Option String) :=
  tape.tokens.toList.map Token.face

variable {tape tape' : Tape}

theorem length_faces (tape : Tape) : tape.faces.length = tape.size := by
  simp [faces, size]

theorem faces_getElem? {i : Nat} (h : i < tape.size) :
    tape.faces[i]? = some (tape.look i).face := by
  rw [faces, List.getElem?_map, getElem?_eq_look h, Option.map_some]

theorem faces_ofSource (lexicon : Lexicon) (source : String) :
    (ofSource lexicon source).faces = (tokenize lexicon source).map Token.face := rfl

/-- Tapes with the same faces show the same face at every position, past the end as well. -/
theorem face_look (h : tape'.faces = tape.faces) (i : Nat) :
    (tape'.look i).face = (tape.look i).face := by
  have hsize : tape'.size = tape.size := by rw [← length_faces, h, length_faces]
  have hinside {i : Nat} (hi : i < tape.size) : (tape'.look i).face = (tape.look i).face := by
    have hfaces := faces_getElem? (hsize ▸ hi)
    rw [h, faces_getElem? hi] at hfaces
    exact (Option.some.inj hfaces).symm
  rcases Nat.lt_or_ge i tape.size with hlt | hge
  · exact hinside hlt
  · have hpos : 0 < tape.size := tape.nonempty
    rw [look_of_le (show tape.size ≤ i + 1 by omega),
      look_of_le (show tape'.size ≤ i + 1 by omega), hsize]
    exact hinside (by omega)

theorem Ends.of_faces (hend : tape.Ends) (h : tape'.faces = tape.faces) : tape'.Ends := by
  have hsize : tape'.size = tape.size := by rw [← length_faces, h, length_faces]
  rw [Ends, hsize, (Prod.mk.inj (face_look h _)).1]
  exact hend

theorem sameFaces (h : tape'.faces = tape.faces) (p : Nat) :
    SameFaces tape.look tape'.look id p :=
  ⟨fun _ _ ↦ rfl, fun i _ ↦ face_look h i⟩

end Tape

/-- On tapes with the same faces, of which one and therefore both end, a nonterminal that starts
from the same position comes to the same answer at the same position. -/
theorem Rule.run_of_faces {tape tape' : Tape} (hend : tape.Ends) (h : tape'.faces = tape.faces)
    (options : Options) (rule : Rule) {s s' : State}
    (hs : s'.cursor.position = s.cursor.position) :
    Ending.SameAnswer (fun d d' ↦ d'.message = d.message)
        (rule.run ⟨tape, options⟩ s).1 (rule.run ⟨tape', options⟩ s').1 ∧
      (rule.run ⟨tape', options⟩ s').2.cursor.position =
        (rule.run ⟨tape, options⟩ s).2.cursor.position := by
  let setup : Setup := ⟨tape, options⟩
  let setup' : Setup := ⟨tape', options⟩
  have hends : setup.tape.Ends := hend
  have hends' : setup'.tape.Ends := hend.of_faces h
  obtain ⟨v, hv, hr⟩ := rule.reads_run hends s
  have hr' : Reads setup'.tape.look setup'.options.restoreSign (.rule rule) s'.cursor.position v
      (rule.run setup s).2.cursor.position := hs ▸ hr.carry rfl (Tape.sameFaces h _)
  obtain ⟨hv', hp⟩ := run_of_reads hends' hr'
  exact ⟨Ending.sameAnswer_of_verdict? hv hv' fun _ _ _ _ hc ↦ congrArg Complaint.message hc, hp⟩

/-- Spelling and layout do not affect the verdict. On two tapes with the same faces that end, every
nonterminal comes to the same answer with the same message and stops at the same position, if it
starts from the same position. So two texts with tokens of the same faces are checked with the same
outcome and the same message, whatever names and numbers are in them and however they are laid
out. -/
theorem spelling_and_layout_immaterial (options : Options) :
    (∀ (tape tape' : Tape), tape.Ends → tape'.faces = tape.faces →
      ∀ (rule : Rule) (s s' : State), s'.cursor.position = s.cursor.position →
        Ending.SameAnswer (fun d d' ↦ d'.message = d.message)
            (rule.run ⟨tape, options⟩ s).1 (rule.run ⟨tape', options⟩ s').1 ∧
          (rule.run ⟨tape', options⟩ s').2.cursor.position =
            (rule.run ⟨tape, options⟩ s).2.cursor.position) ∧
    ∀ (lexicon lexicon' : Lexicon) (log log' : Option TraceLog) (source source' : String),
      (tokenize lexicon' source').map Token.face = (tokenize lexicon source).map Token.face →
        Ending.SameAnswer (fun d d' ↦ d'.message = d.message)
          (checkSource lexicon options log source).1
          (checkSource lexicon' options log' source').1 := by
  constructor
  · intro tape tape' hend h rule s s' hs
    exact rule.run_of_faces hend h options hs
  · intro lexicon lexicon' log log' source source' h
    rw [← Tape.faces_ofSource, ← Tape.faces_ofSource] at h
    have hend : (Tape.ofSource lexicon source).Ends := (Tape.endsOnce_ofSource _ _).ends
    have hstart : (State.start log').cursor.position = (State.start log).cursor.position := rfl
    exact (Rule.program.run_of_faces hend h options hstart).1

/-- Two texts of a program that lacks an expression behind its last `move` fail with the same
message, though in the second one the bug and the variable have other names and the failure is on
another line. A product without its second factor fails at the same position on two tapes, of which
one has another name and other places. -/
theorem renamed_and_laid_out_anew :
    let source := "Bug A \x7b\nmove 1+x\nmove\n\x7d\n"
    let source' := "Bug Bee  \x7b // small\n move 2.50 + /* two\nlines */ yy\n  move\n\x7d\n"
    let options : Options := ⟨true, false⟩
    let tape := Tape.closing [⟨.name, "x", 1, 1⟩, ⟨.symbol, "*", 1, 2⟩] ⟨.endOfInput, "EOF", 1, 3⟩
    let tape' := Tape.closing [⟨.name, "yy", 4, 2⟩, ⟨.symbol, "*", 5, 1⟩] ⟨.endOfInput, "", 9, 9⟩
    (∃ d d', (checkSource .standard options none source).1 = .failed d ∧
        (checkSource .standard options none source').1 = .failed d' ∧
        d'.message = d.message ∧ d.line = 3 ∧ d'.line = 4) ∧
      tape.Ends ∧ tape'.faces = tape.faces ∧
      (Rule.term.run ⟨tape', options⟩ (.start none)).2.cursor.position =
        (Rule.term.run ⟨tape, options⟩ (.start none)).2.cursor.position := by
  intro source source' options tape tape'
  obtain ⟨htapes, hsources⟩ := spelling_and_layout_immaterial options
  have hend : tape.Ends := by decide +kernel
  have hfaces : tape'.faces = tape.faces := by decide +kernel
  have hfailed : (checkSource .standard options none source).1 =
      .failed ⟨.actionExpression .move, 3, some 5, .endOfLine, "\n"⟩ := by decide +kernel
  have hanswer := hsources .standard .standard none none source source' (by decide +kernel)
  obtain ⟨d', hfailed', hmessage⟩ := (hfailed ▸ hanswer).exists_failed
  have hline : (checkSource .standard options none source').1.diagnostic?.map (·.line) =
      some 4 := by
    decide +kernel
  rw [hfailed'] at hline
  exact ⟨⟨_, d', hfailed, hfailed', hmessage, rfl, Option.some.inj hline⟩, hend, hfaces,
    (htapes tape tape' hend hfaces .term _ _ rfl).2⟩

end Bugs
