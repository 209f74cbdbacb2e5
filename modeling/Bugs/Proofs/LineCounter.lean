import Bugs.Proofs.Run
import Bugs.Session

/-!
# The line counter is a function of the position

A cursor carries a line counter that moves with the line ends it reads, is put back with a token and
is set by a mark. Whatever is asked of a session, in whatever order, the counter is the one that
belongs to the position (`Setup.lineAt`), and the counter that is kept for putting the last token
back is the one that belongs to the position before. This holds behind the last token as well, where
that token is read again and again.

What the invariant says of a cursor is `Cursor.Counts`. Fetching, putting back, marking and going
back to a mark keep it, so every run of a matcher keeps it, however the run ends, and so does every
operation of a session.

## Main definitions

* `Setup.lineAt`: the line counter that belongs to a position.
* `Cursor.Counts`, `Session.Counts`: the invariant.

## Main results

* `Setup.lineAt_succ`: the counter behind one token more.
* `Matcher.run_counts`, `Session.Counts.perform`: one step keeps the invariant.
* `Session.line_eq_lineAt`.
-/

namespace Bugs

/-- The line counter that belongs to a position. While lines are tracked, it is one more than the
line of the last line end among the tokens in front of the position, and one if there is none. -/
def Setup.lineAt (setup : Setup) (position : Nat) : Int :=
  if setup.options.trackLines then
    let before := setup.tape.tokens.toList.take (min position setup.tape.size)
    (before.filter (·.kind = .endOfLine)).getLast?.elim 1 fun token ↦ token.line + 1
  else 1

/-! ### Positions -/

section Positions

variable (setup : Setup)

@[simp] theorem Setup.lineAt_zero : setup.lineAt 0 = 1 := by
  simp [lineAt]

theorem Tape.take_succ {tape : Tape} {i : Nat} (h : i < tape.size) :
    tape.tokens.toList.take (i + 1) = tape.tokens.toList.take i ++ [tape.look i] := by
  rw [List.take_add_one, getElem?_eq_look h, Option.toList_some]

/-- Behind the end of a tape the last token is the one that is read again. -/
theorem Tape.getLast?_eq_look {tape : Tape} {i : Nat} (h : tape.size ≤ i) :
    tape.tokens.toList.getLast? = some (tape.look i) := by
  have hpos := tape.nonempty
  rw [List.getLast?_eq_getElem?, look_of_le (Nat.le_succ_of_le h), Array.length_toList]
  exact getElem?_eq_look (Nat.sub_lt hpos Nat.one_pos)

/-- A line end moves the counter behind its line, and no other token moves it. -/
theorem Setup.lineAt_succ (position : Nat) :
    setup.lineAt (position + 1) =
      if (setup.tape.look position).kind = .endOfLine ∧ setup.options.trackLines then
        (setup.tape.look position).line + 1
      else setup.lineAt position := by
  cases htrack : setup.options.trackLines with
  | false => simp [lineAt, htrack]
  | true =>
    simp only [lineAt, htrack, if_true, and_true]
    by_cases hkind : (setup.tape.look position).kind = .endOfLine
    · rw [if_pos hkind]
      rcases Nat.lt_or_ge position setup.tape.size with hlt | hge
      · rw [Nat.min_eq_left hlt, Tape.take_succ hlt, List.filter_append]
        simp [hkind]
      · -- the line end that is read again is the last token in front of the position as well
        obtain ⟨init, hinit⟩ := List.getLast?_eq_some_iff.mp (Tape.getLast?_eq_look hge)
        rw [Nat.min_eq_right (Nat.le_succ_of_le hge), List.take_of_length_le (by simp [Tape.size]),
          hinit, List.filter_append]
        simp [hkind]
    · rw [if_neg hkind]
      rcases Nat.lt_or_ge position setup.tape.size with hlt | hge
      · rw [Nat.min_eq_left hlt, Nat.min_eq_left (Nat.le_of_lt hlt), Tape.take_succ hlt,
          List.filter_append]
        simp [hkind]
      · rw [Nat.min_eq_right (Nat.le_succ_of_le hge), Nat.min_eq_right hge]

end Positions

/-! ### The invariant of a cursor -/

/-- The line counter belongs to the position, and if a fetch can be taken back, the counter kept for
that belongs to the position before. -/
structure Cursor.Counts (setup : Setup) (cursor : Cursor) : Prop where
  line : cursor.line = setup.lineAt cursor.position
  undo : ∀ line, cursor.undo = some line →
    1 ≤ cursor.position ∧ line = setup.lineAt (cursor.position - 1)

/-- The line of a mark belongs to its position. -/
def Mark.Counts (setup : Setup) (mark : Mark) : Prop :=
  mark.line = setup.lineAt mark.position

section Cursors

variable {setup : Setup}

theorem Cursor.counts_start (setup : Setup) : start.Counts setup :=
  ⟨setup.lineAt_zero.symm, fun _ h ↦ by cases h⟩

theorem Cursor.Counts.mark {cursor : Cursor} (h : cursor.Counts setup) :
    cursor.mark.Counts setup :=
  h.line

theorem Mark.Counts.cursor {mark : Mark} (h : mark.Counts setup) : mark.cursor.Counts setup :=
  ⟨h, fun _ h ↦ by cases h⟩

theorem Cursor.Counts.advance {cursor : Cursor} (h : cursor.Counts setup) :
    (cursor.advance setup).Counts setup := by
  constructor
  · rw [show (cursor.advance setup).position = cursor.position + 1 from rfl, Setup.lineAt_succ,
      ← h.line]
    rfl
  · intro line hline
    obtain rfl : cursor.line = line := Option.some.inj hline
    exact ⟨Nat.le_add_left 1 cursor.position, h.line⟩

theorem Cursor.Counts.pushBack {cursor back : Cursor} (h : cursor.Counts setup)
    (hback : cursor.pushBack? = some back) : back.Counts setup := by
  obtain ⟨line, hline, rfl⟩ := Option.map_eq_some_iff.mp hback
  exact ⟨(h.undo line hline).2, fun _ h ↦ by cases h⟩

end Cursors

/-! ### Runs -/

/-- From a cursor that counts, the run comes to a cursor that counts. -/
def KeepsCount (setup : Setup) (run : Run) : Prop :=
  ∀ s : State, s.cursor.Counts setup → (run s).2.cursor.Counts setup

section Runs

variable {setup : Setup}

theorem readToken_counts (test : TokenTest) : KeepsCount setup (readToken setup test) := by
  intro s hs
  simp only [readToken]
  split
  · exact hs.advance
  · split
    · rename_i hback
      exact hs.advance.pushBack hback
    · exact hs.advance

/-- A run that goes on where another one has matched. -/
theorem KeepsCount.matched {run : Run} {next : Run} (h : KeepsCount setup run)
    (hnext : KeepsCount setup next) :
    KeepsCount setup fun s ↦
      match run s with
      | (.matched, s') => next s'
      | stopped => stopped := by
  intro s hs
  have hrun := h s hs
  dsimp only
  split
  · rename_i s' heq
    rw [heq] at hrun
    exact hnext s' hrun
  · exact hrun

/-- A run that goes on where another one has not matched. It may know where that one began. -/
theorem KeepsCount.unmatched {run : Run} {next : State → Run} (h : KeepsCount setup run)
    (hnext : ∀ s : State, s.cursor.Counts setup → KeepsCount setup (next s)) :
    KeepsCount setup fun s ↦
      match run s with
      | (.unmatched, s') => next s s'
      | stopped => stopped := by
  intro s hs
  have hrun := h s hs
  dsimp only
  split
  · rename_i s' heq
    rw [heq] at hrun
    exact hnext s hs s' hrun
  · exact hrun

theorem repeatRun_counts {body : Run} (hbody : KeepsCount setup body) (laps : Nat) :
    KeepsCount setup (repeatRun body laps) := by
  induction laps with
  | zero => exact fun _ hs ↦ hs
  | succ laps ih =>
    intro s hs
    have hlap := hbody s hs
    rw [repeatRun]
    split
    · rename_i next h
      rw [h] at hlap
      exact ih next hlap
    · rename_i next h
      rwa [h] at hlap
    · exact hlap

/-- A matcher keeps the invariant within any budget, if the nonterminals do. -/
theorem Matcher.runWith_counts {call : Rule → Run} (hcall : ∀ rule, KeepsCount setup (call rule))
    (laps : Nat) (m : Matcher) : KeepsCount setup (m.runWith setup call laps) := by
  induction m with
  | token test => exact readToken_counts test
  | keyword word =>
    refine (readToken_counts _).matched fun s hs ↦ ?_
    rwa [cursor_reportKeyword]
  | announce => exact fun _ hs ↦ hs
  | rule name => exact hcall name
  | both _ _ iha ihb => exact iha.matched ihb
  | either _ _ iha ihb => exact iha.unmatched fun _ _ ↦ ihb
  | must _ _ ih => exact ih.unmatched fun _ _ _ hs ↦ hs
  | optional _ ih => exact ih.unmatched fun _ _ _ hs ↦ hs
  | many _ ih => exact repeatRun_counts ih laps
  | rewind _ ih => exact ih.unmatched fun _ hs _ _ ↦ hs.mark.cursor
  | rewindSign _ ih =>
    refine ih.unmatched fun s hs s' hs' ↦ ?_
    dsimp only
    split
    · exact hs.mark.cursor
    · exact hs'

theorem Rule.runWith_counts (budget : Nat) (rule : Rule) :
    KeepsCount setup (rule.runWith Rule.matcher setup budget) := by
  induction budget generalizing rule with
  | zero => exact fun _ hs ↦ hs
  | succ budget ih => exact Matcher.runWith_counts ih budget rule.matcher

/-- Every run of a matcher keeps the invariant, however it ends. -/
theorem Matcher.run_counts (m : Matcher) : KeepsCount setup (m.run setup) :=
  fun s hs ↦ Matcher.runWith_counts (Rule.runWith_counts _) _ m s hs

end Runs

/-! ### Sessions -/

/-- The cursor of the session counts, and so do all marks that were taken. -/
structure Session.Counts (session : Session) : Prop where
  cursor : session.state.cursor.Counts session.setup
  marks : ∀ mark ∈ session.marks, mark.Counts session.setup

namespace Session

theorem counts_start (setup : Setup) (log : Option TraceLog) : (start setup log).Counts :=
  ⟨Cursor.counts_start setup, by simp [start]⟩

@[simp] theorem setup_perform (session : Session) (operation : Operation) :
    (session.perform operation).2.setup = session.setup := by
  cases operation with
  | pushBack | reset =>
    simp only [perform]
    split <;> rfl
  | next | peek | mark | read | clearTrace => rfl

@[simp] theorem setup_performAll (session : Session) (operations : List Operation) :
    (session.performAll operations).2.setup = session.setup := by
  induction operations generalizing session with
  | nil => rfl
  | cons operation operations ih => exact (ih _).trans (session.setup_perform operation)

/-- Every operation keeps the invariant, also one that is refused. -/
theorem Counts.perform {session : Session} (h : session.Counts) (operation : Operation) :
    (session.perform operation).2.Counts := by
  cases operation with
  | next => exact ⟨h.cursor.advance, h.marks⟩
  | peek | clearTrace => exact ⟨h.cursor, h.marks⟩
  | pushBack =>
    simp only [Session.perform]
    split
    · rename_i hback
      exact ⟨h.cursor.pushBack hback, h.marks⟩
    · exact h
  | mark =>
    refine ⟨h.cursor, fun mark hmark ↦ ?_⟩
    rcases Array.mem_push.mp hmark with hold | rfl
    · exact h.marks mark hold
    · exact h.cursor.mark
  | reset index =>
    simp only [Session.perform]
    split
    · rename_i hmark
      exact ⟨(h.marks _ (Array.mem_of_getElem? hmark)).cursor, h.marks⟩
    · exact h
  | read matcher => exact ⟨matcher.run_counts _ h.cursor, h.marks⟩

theorem Counts.performAll {session : Session} (h : session.Counts) (operations : List Operation) :
    (session.performAll operations).2.Counts := by
  induction operations generalizing session with
  | nil => exact h
  | cons operation operations ih => exact ih (h.perform operation)

/-- Whatever was asked of a session since its start, in whatever order, its line counter is the one
that belongs to its position. If a fetch can be taken back, there is a position before, and the
counter that is kept for it is the one that belongs there. -/
theorem line_eq_lineAt (setup : Setup) (log : Option TraceLog) (operations : List Operation) :
    let cursor := ((start setup log).performAll operations).2.state.cursor
    cursor.line = setup.lineAt cursor.position ∧
      ∀ line, cursor.undo = some line →
        1 ≤ cursor.position ∧ line = setup.lineAt (cursor.position - 1) := by
  have hcursor := ((counts_start setup log).performAll operations).cursor
  rw [setup_performAll] at hcursor
  exact ⟨hcursor.line, hcursor.undo⟩

/-- A line end on the fourth line that is the only token and is read twice: the counter is five, and
so is the one kept for the position before. -/
theorem line_behind_last_token :
    let setup : Setup := ⟨.closing [] ⟨.endOfLine, "\n", 4, 1⟩, ⟨true, false⟩⟩
    let cursor := ((start setup none).performAll [.next, .next]).2.state.cursor
    cursor.position = 2 ∧ cursor.undo = some 5 ∧ setup.lineAt 2 = 5 ∧ setup.lineAt 1 = 5 := by
  intro setup cursor
  obtain ⟨hline, hundo⟩ := line_eq_lineAt setup none [.next, .next]
  exact ⟨rfl, rfl, hline.symm, (hundo 5 rfl).2.symm⟩

end Session

end Bugs
