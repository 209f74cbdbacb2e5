import Bugs.Proofs.Acceptance
import Bugs.Proofs.Progress
import Bugs.Session

/-!
# The trace and the line counter only observe

A session may have a trace log, and it may track lines. Neither decides how a recognition goes on.
What a nonterminal answers, and where it leaves the cursor, is determined by what it reads, and a
reading knows of no log, no line counter and no fetch that could be taken back. So the run of a
nonterminal can be given in terms of its reading (`Rule.run_eq_of_reads`): no log occurs there, and
whether lines are tracked shows in the line and the column alone.

For a sequence of attempts three facts follow by induction. A log changes nothing, tracking lines
changes nothing but lines and columns, and without tracking every line is the first one and no
column is given.

## Main definitions

* `Session.trail`: the replies of a session, each with the place behind it.
* `Reply.unplaced`, `Session.observed`: what shows of a reply and of its place, line and column
  apart.
* `Setup.trailOf`: the trail that verdicts at given positions leave.

## Main results

* `Matcher.run_eq_of_reads`, `Rule.run_eq_of_reads`.
* `Session.map_fst_trail`: a trail holds the replies that the session gives.
* `Session.exists_trailOf`: one list of readings for all sessions.
* `Session.attempts_observed`.
-/

namespace Bugs

/-- The ending that a verdict comes to at a place. -/
def Verdict.ending (setup : Setup) (mark : Mark) : Verdict → Ending
  | matched => .matched
  | unmatched => .unmatched
  | failed c =>
    let token := setup.tape.look mark.position
    .failed ⟨c, mark.line, if setup.options.trackLines then some token.column else none,
      token.kind, token.text⟩

/-- The place behind what was read from a place up to a position. -/
def Setup.markBehind (setup : Setup) (mark : Mark) (q : Nat) : Mark :=
  ⟨q, setup.lineBehind mark.line (stretch setup.tape.look mark.position q)⟩

/-! ### One run -/

section Run

variable {setup : Setup} {s s' : State} {e : Ending} {v : Verdict}

@[simp] theorem Verdict.verdict?_ending (setup : Setup) (mark : Mark) (v : Verdict) :
    (v.ending setup mark).verdict? = some v := by
  cases v <;> rfl

theorem Runs.eq_ending {m : Matcher} (h : Runs setup m s e s') (hv : e.verdict? = some v) :
    e = v.ending setup s'.cursor.mark := by
  cases v with
  | matched => exact Ending.verdict?_eq_matched.mp hv
  | unmatched => exact Ending.verdict?_eq_unmatched.mp hv
  | failed c =>
    obtain ⟨d, rfl, rfl⟩ := Ending.verdict?_eq_failed.mp hv
    exact congrArg Ending.failed h.diagnostic_eq

theorem Runs.mark_eq {m : Matcher} (h : Runs setup m s e s') :
    s'.cursor.mark = setup.markBehind s.cursor.mark s'.cursor.position := by
  rw [Setup.markBehind, Cursor.line_mark, Cursor.position_mark, ← h.line_eq]
  rfl

/-- The run of a regular matcher on a tape that ends, in terms of what the matcher reads. -/
theorem Matcher.run_eq_of_reads (hend : setup.tape.Ends) {m : Matcher} (hm : m.regular = true)
    {q : Nat} (h : Reads setup.tape.look setup.options.restoreSign m s.cursor.position v q) :
    (m.run setup s).1 = v.ending setup (setup.markBehind s.cursor.mark q) ∧
      (m.run setup s).2.cursor.mark = setup.markBehind s.cursor.mark q := by
  obtain ⟨hv, rfl⟩ := run_of_reads hend hm h
  have hruns := runs_run hend hm s
  exact ⟨hruns.mark_eq ▸ hruns.eq_ending hv, hruns.mark_eq⟩

/-- The run of a nonterminal on a tape that ends, in terms of what the nonterminal reads. -/
theorem Rule.run_eq_of_reads (hend : setup.tape.Ends) {rule : Rule} {q : Nat}
    (h : Reads setup.tape.look setup.options.restoreSign (.rule rule) s.cursor.position v q) :
    (rule.run setup s).1 = v.ending setup (setup.markBehind s.cursor.mark q) ∧
      (rule.run setup s).2.cursor.mark = setup.markBehind s.cursor.mark q := by
  rw [← Matcher.run_rule]
  exact Matcher.run_eq_of_reads hend rfl h

/-- On a tape that ends, the ending of a run depends on the place where it starts. Neither the trace
log nor a fetch that could be taken back has a part in it. -/
theorem Rule.ending_eq_of_mark (hend : setup.tape.Ends) (rule : Rule)
    (hs : s'.cursor.mark = s.cursor.mark) : (rule.run setup s').1 = (rule.run setup s).1 := by
  obtain ⟨v, q, h⟩ := rule.exists_reads hend setup.options.restoreSign s.cursor.position
  have h' : Reads setup.tape.look setup.options.restoreSign (.rule rule) s'.cursor.position v
      q := by
    rwa [← s'.cursor.position_mark, hs, Cursor.position_mark]
  rw [(run_eq_of_reads hend h').1, (run_eq_of_reads hend h).1, hs]

/-- A check ends the same with every trace log and without one. -/
theorem checkSource_ending_eq (lexicon : Lexicon) (options : Options) (log log' : Option TraceLog)
    (source : String) :
    (checkSource lexicon options log' source).1 = (checkSource lexicon options log source).1 :=
  Rule.ending_eq_of_mark (Tape.endsOnce_ofSource lexicon source).ends .program rfl

theorem Setup.lineBehind_of_untracked (h : setup.options.trackLines = false) (line : Int)
    (tokens : List Token) : setup.lineBehind line tokens = line := by
  simp [lineBehind, h]

end Run

/-! ### Sessions -/

/-- The reply without the line and the column of its diagnostic. -/
def Reply.unplaced : Reply → Reply
  | ended (.failed d) => ended (.failed { d with line := 1, column := none })
  | reply => reply

namespace Session

/-- The replies to operations one after another, each with the place of the cursor behind it. -/
def trail (session : Session) : List Operation → List (Reply × Mark)
  | [] => []
  | operation :: rest =>
    let next := session.perform operation
    (next.1, next.2.state.cursor.mark) :: next.2.trail rest

/-- The trail holds the replies that the session gives. -/
theorem map_fst_trail (session : Session) (operations : List Operation) :
    (session.trail operations).map Prod.fst = (session.performAll operations).1 := by
  induction operations generalizing session with
  | nil => rfl
  | cons operation operations ih => simp only [trail, performAll, List.map_cons, ih]

/-- A reply without line and column, and the position behind it. -/
def observed (answer : Reply × Mark) : Reply × Nat :=
  (answer.1.unplaced, answer.2.position)

/-- Attempts to read nonterminals one after another. -/
def attempts (rules : List Rule) : List Operation :=
  rules.map fun rule ↦ .read (.rule rule)

end Session

/-- The trail of verdicts that are reached from a place, each at a position. -/
def Setup.trailOf (setup : Setup) (mark : Mark) : List (Verdict × Nat) → List (Reply × Mark)
  | [] => []
  | (v, q) :: rest =>
    let next := setup.markBehind mark q
    (.ended (v.ending setup next), next) :: setup.trailOf next rest

/-- On a tape that ends, attempts have the same verdicts at the same positions in all sessions that
start from one position and treat signs alike. -/
theorem Session.exists_trailOf {tape : Tape} (hend : tape.Ends) (restore : Bool)
    (rules : List Rule) (p : Nat) :
    ∃ readings, ∀ session : Session, session.setup.tape = tape →
      session.setup.options.restoreSign = restore → session.state.cursor.position = p →
      session.trail (attempts rules) =
        session.setup.trailOf session.state.cursor.mark readings := by
  induction rules generalizing p with
  | nil => exact ⟨[], fun _ _ _ _ ↦ rfl⟩
  | cons rule rules ih =>
    obtain ⟨v, q, hr⟩ := rule.exists_reads hend restore p
    obtain ⟨readings, hreadings⟩ := ih q
    refine ⟨(v, q) :: readings, ?_⟩
    rintro session rfl rfl rfl
    obtain ⟨hending, hmark⟩ := Rule.run_eq_of_reads hend hr
    let next : Session := { session with state := (rule.run session.setup session.state).2 }
    have hnext : next.trail (attempts rules) =
        session.setup.trailOf next.state.cursor.mark readings :=
      hreadings next rfl rfl (congrArg Mark.position hmark)
    have htrail : session.trail (attempts (rule :: rules)) =
        (.ended (rule.run session.setup session.state).1, next.state.cursor.mark) ::
          next.trail (attempts rules) := rfl
    rw [htrail, hnext, hending, hmark]
    rfl

/-! ### What the trail shows -/

section Trail

variable {setup : Setup} {mark : Mark} {readings : List (Verdict × Nat)}

/-- Lines and columns apart, a trail is determined by the tape and the readings. -/
theorem Setup.map_observed_trailOf {setup' : Setup} (htape : setup'.tape = setup.tape)
    {mark' : Mark} : (setup'.trailOf mark' readings).map Session.observed =
      (setup.trailOf mark readings).map Session.observed := by
  induction readings generalizing mark mark' with
  | nil => rfl
  | cons reading readings ih =>
    obtain ⟨v, q⟩ := reading
    rw [trailOf, trailOf, List.map_cons, List.map_cons, ih]
    congr 1
    cases v with
    | matched | unmatched => rfl
    | failed c => simp only [Session.observed, Verdict.ending, Reply.unplaced, markBehind, htape]

theorem Setup.exists_ending_of_mem {answer : Reply × Mark}
    (h : answer ∈ setup.trailOf mark readings) :
    ∃ v : Verdict, answer.1 = .ended (v.ending setup answer.2) := by
  induction readings generalizing mark with
  | nil => cases h
  | cons reading readings ih =>
    rcases List.mem_cons.mp h with rfl | h
    · exact ⟨_, rfl⟩
    · exact ih h

/-- Without tracking the line is the same all along a trail. -/
theorem Setup.line_eq_of_mem (huntracked : setup.options.trackLines = false)
    {answer : Reply × Mark} (h : answer ∈ setup.trailOf mark readings) :
    answer.2.line = mark.line := by
  induction readings generalizing mark with
  | nil => cases h
  | cons reading readings ih =>
    have hline := setup.lineBehind_of_untracked huntracked mark.line
    rcases List.mem_cons.mp h with rfl | h
    · exact hline _
    · exact (ih h).trans (hline _)

end Trail

theorem Session.exists_answer_of_mem {session : Session} (hend : session.setup.tape.Ends)
    {rules : List Rule} {answer : Reply × Mark} (h : answer ∈ session.trail (attempts rules)) :
    ∃ e, answer.1 = .ended e ∧ (e = .matched ∨ e = .unmatched ∨ ∃ d, e = .failed d) := by
  obtain ⟨readings, hreadings⟩ := exists_trailOf hend session.setup.options.restoreSign rules
    session.state.cursor.position
  rw [hreadings session rfl rfl rfl] at h
  obtain ⟨v, hv⟩ := Setup.exists_ending_of_mem h
  exact ⟨_, hv, Ending.eq_of_verdict? (Verdict.verdict?_ending ..)⟩

/-- For every text and every sequence of attempts at nonterminals, the replies are answers. Neither
a trace log nor the tracking of lines shows in the outcomes, in the messages and details of failures
or in the positions. A trace log does not show in lines and columns either, and without tracking
every line is the first and there are no columns. -/
theorem Session.attempts_observed (lexicon : Lexicon) (source : String) (restore : Bool)
    (rules : List Rule) :
    let trail (track : Bool) (log : Option TraceLog) : List (Reply × Mark) :=
      (start ⟨.ofSource lexicon source, ⟨track, restore⟩⟩ log).trail (attempts rules)
    (∀ track log, ∀ answer ∈ trail track log, ∃ e, answer.1 = .ended e ∧
        (e = .matched ∨ e = .unmatched ∨ ∃ d, e = .failed d)) ∧
      (∀ track track' log log',
        (trail track' log').map observed = (trail track log).map observed) ∧
      (∀ track log log', trail track log' = trail track log) ∧
      ∀ log, ∀ answer ∈ trail false log, answer.2.line = 1 ∧
        ∀ d, answer.1 = .ended (.failed d) → d.line = 1 ∧ d.column = none := by
  intro trail
  have hend : (Tape.ofSource lexicon source).Ends := (Tape.endsOnce_ofSource lexicon source).ends
  obtain ⟨readings, hreadings⟩ := exists_trailOf hend restore rules 0
  have htrail (track : Bool) (log : Option TraceLog) : trail track log =
      Setup.trailOf ⟨.ofSource lexicon source, ⟨track, restore⟩⟩ ⟨0, 1⟩ readings :=
    hreadings _ rfl rfl rfl
  refine ⟨fun track log answer h ↦ ?_, fun track track' log log' ↦ ?_, fun track log log' ↦ ?_,
    fun log answer h ↦ ?_⟩
  · exact exists_answer_of_mem hend h
  · rw [htrail, htrail]
    refine Setup.map_observed_trailOf ?_
    rfl
  · rw [htrail, htrail]
  · rw [htrail] at h
    have hline : answer.2.line = 1 := Setup.line_eq_of_mem rfl h
    refine ⟨hline, fun d hd ↦ ?_⟩
    obtain ⟨v, hv⟩ := Setup.exists_ending_of_mem h
    rw [hv] at hd
    cases v with
    | matched | unmatched => cases hd
    | failed c =>
      cases hd
      exact ⟨hline, rfl⟩

/-- A `move` without an expression behind a line end: what is observed of the two attempts is the
same with and without tracking, though the places are not. -/
theorem Session.observed_behind_line_end :
    let trail (track : Bool) (log : Option TraceLog) : List (Reply × Mark) :=
      (start ⟨.ofSource .standard "\nmove", ⟨track, false⟩⟩ log).trail
        (attempts [.eolGroup, .moveAction])
    (trail false none).map observed = (trail true (some (.empty .debug))).map observed ∧
      trail false none ≠ trail true none := by
  intro trail
  have h := attempts_observed .standard "\nmove" false [.eolGroup, .moveAction]
  exact ⟨h.2.1 true false (some (.empty .debug)) none, by decide +kernel⟩

end Bugs
