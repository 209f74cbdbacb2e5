import Bugs.Proofs.LineCounter
import Bugs.Proofs.Observation

/-!
# Going back to a mark

A mark remembers a position and a line counter. That is all of a state that a recognition depends
on: neither the fetch that could have been taken back nor what the trace log holds decides how it
goes on. So whoever takes a mark, asks whatever else of the session and goes back to the mark, finds
the answers that would have been given at once, each at the same place.

Marks are numbered and none is ever taken away (`Session.marks_performAll`), so a mark is still
known after any operations.

## Main results

* `Session.backtracking_complete`.
-/

namespace Bugs.Session

theorem marks_perform {session : Session} {index : Nat} {mark : Mark}
    (h : session.marks[index]? = some mark) (operation : Operation) :
    (session.perform operation).2.marks[index]? = some mark := by
  cases operation with
  | mark =>
    have hlt : index < session.marks.size := (Array.getElem?_eq_some_iff.mp h).1
    simpa only [perform, Array.getElem?_push, hlt.ne, if_false] using h
  | pushBack | reset =>
    simp only [perform]
    split <;> exact h
  | next | peek | read | clearTrace => exact h

theorem marks_performAll {session : Session} {index : Nat} {mark : Mark}
    (h : session.marks[index]? = some mark) (operations : List Operation) :
    (session.performAll operations).2.marks[index]? = some mark := by
  induction operations generalizing session with
  | nil => exact h
  | cons operation operations ih => exact ih (marks_perform h operation)

/-- A session that goes back to a mark stands where the mark was taken, and has no fetch that could
be taken back. -/
theorem perform_reset {session : Session} {index : Nat} {mark : Mark}
    (h : session.marks[index]? = some mark) :
    session.perform (.reset index) = (.done, session.moved mark.cursor) := by
  simp only [perform, h]

/-- On a tape that ends, sessions with the same setup at the same place give the same replies to
attempts, each at the same place. -/
theorem trail_eq_of_mark {session session' : Session} (hend : session.setup.tape.Ends)
    (hsetup : session'.setup = session.setup)
    (hmark : session'.state.cursor.mark = session.state.cursor.mark) (rules : List Rule) :
    session'.trail (attempts rules) = session.trail (attempts rules) := by
  obtain ⟨readings, hreadings⟩ := exists_trailOf hend session.setup.options.restoreSign rules
    session.state.cursor.position
  rw [hreadings session rfl rfl rfl,
    hreadings session' (by rw [hsetup]) (by rw [hsetup]) (congrArg Mark.position hmark), hsetup,
    hmark]

/-- Going back to a mark is complete. Take a mark in any state of a session on a tape that ends, ask
whatever else of it, and go back to the mark: the session stands where the mark was taken, no fetch
can be taken back, and trying to changes nothing. All attempts from there give the replies, each at
the place, that they would have given when the mark was taken, and these replies are answers. -/
theorem backtracking_complete (session : Session) (hend : session.setup.tape.Ends)
    (operations : List Operation) :
    let marked := session.perform .mark
    let after := (marked.2.performAll operations).2
    ∃ index back, marked.1 = .marked index ∧ after.perform (.reset index) = (.done, back) ∧
      back.setup = session.setup ∧
      back.state.cursor = ⟨session.state.cursor.position, session.state.cursor.line, none⟩ ∧
      back.perform .pushBack = (.nothingFetched, back) ∧
      ∀ rules, back.trail (attempts rules) = session.trail (attempts rules) ∧
        ∀ answer ∈ session.trail (attempts rules), ∃ e, answer.1 = .ended e ∧
          (e = .matched ∨ e = .unmatched ∨ ∃ d, e = .failed d) := by
  intro marked after
  have hmarked : marked.2.marks[session.marks.size]? = some session.state.cursor.mark := by
    simp only [marked, perform, Array.getElem?_push_size]
  let back := after.moved session.state.cursor.mark.cursor
  have hsetup : back.setup = session.setup := by
    change after.setup = session.setup
    rw [setup_performAll, setup_perform]
  have hmark : back.state.cursor.mark = session.state.cursor.mark := rfl
  refine ⟨session.marks.size, back, rfl, perform_reset (marks_performAll hmarked operations),
    hsetup, rfl, rfl, fun rules ↦ ⟨trail_eq_of_mark hend hsetup hmark rules, ?_⟩⟩
  exact fun _ hanswer ↦ exists_answer_of_mem hend hanswer

/-- A parameter list that is not closed is read behind a line end, where a fetch could have been
taken back; back at the mark it fails again on the same line, and that fetch cannot be taken back
any more. -/
theorem unclosed_parameters_from_mark :
    let tape := Tape.closing [⟨.endOfLine, "\n", 1, 1⟩, ⟨.symbol, "(", 2, 1⟩, ⟨.name, "x", 2, 2⟩,
      ⟨.endOfLine, "\n", 2, 3⟩] ⟨.endOfInput, "EOF", 3, 1⟩
    let session : Session := ⟨⟨tape, ⟨true, false⟩⟩, ⟨⟨1, 2, some 1⟩, some (.empty .debug)⟩, #[]⟩
    let operations : List Operation :=
      [.read (.rule .parameterList), .read (.rule .eolGroup), .pushBack, .mark, .next]
    let after := ((session.perform .mark).2.performAll operations).2
    tape.Ends ∧ after.state.cursor = ⟨5, 3, some 3⟩ ∧
      ∃ back, after.perform (.reset 0) = (.done, back) ∧ back.state.cursor = ⟨1, 2, none⟩ ∧
        back.trail (attempts [.parameterList]) = session.trail (attempts [.parameterList]) := by
  intro tape session operations after
  have hend : tape.Ends := by decide +kernel
  obtain ⟨index, back, hindex, hback, -, hcursor, -, htrail⟩ :=
    backtracking_complete session hend operations
  obtain rfl : 0 = index := Reply.marked.inj hindex
  exact ⟨hend, by decide +kernel, back, hback, hcursor, (htrail _).1⟩

end Bugs.Session
