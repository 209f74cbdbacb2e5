import Bugs.Proofs.Progress

/-!
# The events of a run

Where the trace log that is attached to a run drops nothing, each event that is recorded is kept,
with the line of the place where the run then stands. Two facts hold of the events of all finished
runs and are proved by induction on them. A run that fails records one error, as its last event, and
no other run records any (`Runs.reports`). The beginning of a construct is recorded directly behind
the keyword that opens it (`Runs.introduced`); that depends on the shape of the matcher, and all
nonterminals have that shape. The other way round, a nonterminal that is committed to a construct
has recorded its beginning (`Runs.reports_beginning`), since no event is ever taken away.

## Main definitions

* `State.events`, `State.Traces`: the events of a trace log that drops none.
* `State.Adds`: one event is recorded.
* `EndWith`: the last event is an error, and the only one.
* `Construct.opener`, `TraceEvent.Heralds`, `Introduced`: the keyword that opens a construct, its
  report, and what it has to do with the beginnings of constructs.
* `Rule.construct?`: the construct that a nonterminal reads behind a keyword.

## Main results

* `Runs.traces`, `Runs.reports`, `Runs.introduced`, `Runs.reports_beginning`.
-/

namespace Bugs

variable {setup : Setup} {m : Matcher} {s s' : State} {e : Ending}

/-! ### Events -/

namespace State

/-- The events of the trace log, oldest first. -/
def events (state : State) : List TraceEvent :=
  state.log.elim [] (·.events.toList)

/-- A trace log is attached, and it drops no event. -/
def Traces (state : State) : Prop :=
  ∃ log, state.log = some log ∧ log.threshold = .debug

/-- The second state has one event more, of the given level and message and with the line where
that state stands. -/
def Adds (s : State) (level : Level) (message : String) (s' : State) : Prop :=
  ∃ event : TraceEvent, event.level = level ∧ event.message = message ∧
    event.line? = some (.integer s'.cursor.line) ∧ s'.events = s.events ++ [event]

@[simp] theorem events_advanced (setup : Setup) : (s.advanced setup).events = s.events := rfl

@[simp] theorem events_refused : s.refused.events = s.events := rfl

@[simp] theorem events_rewound (mark : Mark) : (s.rewound mark).events = s.events := rfl

/-- A log that drops no event keeps what is recorded. -/
theorem Traces.record (h : s.Traces) (level : Level) (message : String)
    (fields : List (String × Json)) :
    (s.record level message fields).Traces ∧
      s.Adds level message (s.record level message fields) := by
  obtain ⟨log, hlog, hthreshold⟩ := h
  have hkept : ¬ level.rank < Level.debug.rank := Nat.not_lt_zero _
  constructor
  · refine ⟨_, congrArg (Option.map _) hlog, ?_⟩
    simp [TraceLog.record, TraceLog.event?, hthreshold, hkept]
  · refine ⟨⟨log.events.size + 1, level, message, some (.object (("line",
      .integer s.cursor.line) :: fields))⟩, rfl, rfl, by simp [TraceEvent.line?, State.record], ?_⟩
    simp [events, State.record, hlog, TraceLog.record, TraceLog.event?, hthreshold, hkept]

end State

theorem TokenTest.text_of_accepts {t : Token} {kind : TokenKind} {word : String}
    (h : TokenTest.accepts ⟨kind, some word⟩ t = true) : t.text = word := by
  simpa [TokenTest.accepts, eq_comm] using (Bool.and_eq_true_iff.mp h).2

theorem State.Traces.reportKeyword (hend : setup.tape.Ends) (ht : s.Traces)
    {word : Option String}
    (h : TokenTest.accepts ⟨.keyword, word⟩ (s.cursor.peek setup.tape) = true) :
    (reportKeyword setup (s.advanced setup)).1 = .matched ∧
      (reportKeyword setup (s.advanced setup)).2.Traces ∧
      s.Adds .debug ("keyword " ++ (s.cursor.peek setup.tape).text)
        (reportKeyword setup (s.advanced setup)).2 := by
  have ht' : (s.advanced setup).Traces := ht
  rw [reportKeyword_eq hend h]
  exact ⟨rfl, ht'.record _ _ _⟩

theorem State.Traces.announceConstruct (ht : s.Traces) (construct : String) :
    (announceConstruct construct s).Traces ∧
      s.Adds .info ("begin " ++ construct) (announceConstruct construct s) :=
  ht.record _ _ _

theorem State.Traces.complain (setup : Setup) (ht : s.Traces) (c : Complaint) :
    (complain setup c s).2.Traces ∧ s.Adds .error c.message (complain setup c s).2 :=
  ht.record _ _ _

/-- A run goes on with a log that drops no event. -/
theorem Runs.traces (hend : setup.tape.Ends) (h : Runs setup m s e s') (ht : s.Traces) :
    s'.Traces := by
  induction h with
  | keyword h => exact (ht.reportKeyword hend h).2.1
  | announce => exact (ht.announceConstruct _).1
  | must _ ih => exact ((ih ht).complain _ _).1
  | both _ _ iha ihb | either _ _ iha ihb | many _ _ iha ihb => exact ihb (iha ht)
  | rewindSign _ ih =>
    split
    · exact ih ht
    · exact ih ht
  | accept | refuse | noKeyword => exact ht
  | rule _ ih | bothStop _ _ ih | eitherStop _ _ ih | mustStop _ _ ih | optionalStop _ _ ih
  | optional _ ih | manyStop _ _ _ ih | manyDone _ ih | rewindStop _ _ ih | rewind _ ih
  | rewindSignStop _ _ ih => exact ih ht

/-! ### Errors -/

/-- No event of the trace log is an error. -/
def State.Faultless (s : State) : Prop :=
  ∀ event ∈ s.events, event.level ≠ .error

/-- The last event is the only error, and it reports the diagnostic. -/
def EndWith (events : List TraceEvent) (d : Diagnostic) : Prop :=
  ∃ earlier last, events = earlier ++ [last] ∧ (∀ event ∈ earlier, event.level ≠ .error) ∧
    last.level = .error ∧ last.message = d.message ∧ last.line? = some (.integer d.line)

/-- The errors of the trace log fit an ending. -/
def State.Reports (s : State) : Ending → Prop
  | .failed d => EndWith s.events d
  | _ => s.Faultless

theorem State.Adds.faultless {level : Level} {message : String} (h : s.Adds level message s')
    (hlevel : level ≠ .error) (hs : s.Faultless) : s'.Faultless := by
  obtain ⟨event, rfl, -, -, hevents⟩ := h
  intro other hother
  rw [hevents, List.mem_append, List.mem_singleton] at hother
  rcases hother with hother | rfl
  · exact hs other hother
  · exact hlevel

/-- A run that fails records one error, as its last event. Any other run records none. -/
theorem Runs.reports (hend : setup.tape.Ends) (h : Runs setup m s e s') (ht : s.Traces)
    (hs : s.Faultless) : s'.Reports e := by
  induction h with
  | keyword h =>
    obtain ⟨hmatched, -, hadds⟩ := ht.reportKeyword hend h
    rw [hmatched]
    exact hadds.faultless (by simp) hs
  | announce => exact (ht.announceConstruct _).2.faultless (by simp) hs
  | @must _ c _ _ h ih =>
    obtain ⟨event, hlevel, hmessage, hline, hevents⟩ :=
      ((h.traces hend ht).complain setup c).2
    exact ⟨_, event, hevents, ih ht hs, hlevel, hmessage, hline⟩
  | both ha _ iha ihb | either ha _ iha ihb | many ha _ iha ihb =>
    exact ihb (ha.traces hend ht) (iha ht hs)
  | rewindSign _ ih =>
    split
    · exact ih ht hs
    · exact ih ht hs
  | accept | refuse | noKeyword => exact hs
  | rule _ ih | bothStop _ _ ih | eitherStop _ _ ih | mustStop _ _ ih | optionalStop _ _ ih
  | optional _ ih | manyStop _ _ _ ih | manyDone _ ih | rewindStop _ _ ih | rewind _ ih
  | rewindSignStop _ _ ih => exact ih ht hs

/-! ### The beginnings of constructs -/

namespace Construct

/-- The keyword that opens a construct. An assignment has none. -/
def opener : Construct → Option String
  | action word => some word.text
  | assignment => none
  | loop => some "loop"
  | exitIf => some "exit"
  | switch => some "switch"
  | returnStatement => some "return"
  | doStatement => some "do"
  | color => some "color"
  | allbugs => some "Allbugs"
  | bug => some "Bug"
  | declaration => some "var"
  | initialization => some "initially"
  | function => some "define"

/-- All constructs. -/
def all : List Construct :=
  [action .move, action .moveto, action .turn, action .turnto, action .line, assignment, loop,
    exitIf, switch, returnStatement, doStatement, color, allbugs, bug, declaration, initialization,
    function]

/-- The keyword opens a construct of the name. -/
def opens (word name : String) : Bool :=
  all.any fun construct ↦ construct.opener = some word && construct.text = name

end Construct

/-- The event reports the keyword that opens the construct of which the other one reports the
beginning. -/
def TraceEvent.Heralds (report beginning : TraceEvent) : Prop :=
  ∃ (construct : Construct) (word : String), construct.opener = some word ∧
    report.level = .debug ∧ report.message = "keyword " ++ word ∧
    beginning.message = "begin " ++ construct.text

/-- Every beginning of a construct comes directly behind the report of the keyword that opens it. -/
def Introduced (events : List TraceEvent) : Prop :=
  ∀ before beginning after, events = before ++ beginning :: after → beginning.level = .info →
    ∃ report, before.getLast? = some report ∧ report.Heralds beginning

/-- With an event more the beginnings stay behind their keywords, if the event is none or comes
directly behind its keyword. -/
theorem Introduced.of_adds {level : Level} {message : String} (hs : Introduced s.events)
    (h : s.Adds level message s')
    (hlevel : level = .info → ∃ report, s.events.getLast? = some report ∧
      ∀ beginning : TraceEvent, beginning.message = message → report.Heralds beginning) :
    Introduced s'.events := by
  obtain ⟨event, rfl, hmessage, -, hevents⟩ := h
  intro before beginning after heq hinfo
  rw [hevents] at heq
  rcases List.eq_nil_or_concat after with rfl | ⟨init, last, rfl⟩
  · obtain ⟨rfl, hlast⟩ := List.append_inj' heq rfl
    cases hlast
    obtain ⟨report, hreport, hheralds⟩ := hlevel hinfo
    exact ⟨report, hreport, hheralds _ hmessage⟩
  · rw [List.concat_eq_append, ← List.cons_append, ← List.append_assoc] at heq
    obtain ⟨hsplit, -⟩ := List.append_inj' heq rfl
    exact hs before beginning init hsplit hinfo

/-- The last event reports the keyword. -/
def State.LastWord (s : State) (word : String) : Prop :=
  ∃ report, s.events.getLast? = some report ∧ report.level = .debug ∧
    report.message = "keyword " ++ word

namespace Matcher

/-- The construct whose beginning the matcher reports before it reads anything. -/
def due : Matcher → Option String
  | announce construct => some construct
  | both a _ => a.due
  | _ => none

/-- The keyword whose report is the last event where the matcher has matched. -/
def lastWord : Matcher → Option String
  | keyword word => word
  | both a (token _) => a.lastWord
  | rewind m => m.lastWord
  | _ => none

/-- The matcher reports the beginning of a construct only behind the keyword that opens it. -/
def introduces : Matcher → Bool
  | token _ | keyword _ | announce _ | rule _ => true
  | both a b => a.introduces && b.introduces &&
      b.due.all fun construct ↦ a.lastWord.any (Construct.opens · construct)
  | either a b => a.introduces && b.introduces && a.due.isNone && b.due.isNone
  | must m _ | optional m | many m | rewind m | rewindSign m => m.introduces && m.due.isNone

end Matcher

/-- No nonterminal reports the beginning of a construct without its keyword, found by evaluation. -/
theorem Rule.introduces_matcher (rule : Rule) :
    rule.matcher.introduces = true ∧ rule.matcher.due = none :=
  of_all (by decide +kernel) rule

/-- A run keeps every beginning of a construct behind its keyword. If the matcher reports a
beginning before it reads anything, the keyword has to be the last event before the run. -/
theorem Runs.introduced (hend : setup.tape.Ends) (h : Runs setup m s e s')
    (hm : m.introduces = true) (ht : s.Traces) (hs : Introduced s.events)
    (hdue : ∀ construct ∈ m.due, ∃ word, s.LastWord word ∧ Construct.opens word construct = true) :
    Introduced s'.events ∧ (e = .matched → ∀ word ∈ m.lastWord, s'.LastWord word) := by
  induction h with
  | accept => exact ⟨hs, fun _ word hw ↦ by cases hw⟩
  | refuse | noKeyword => exact ⟨hs, fun he ↦ by cases he⟩
  | @keyword _ s h =>
    obtain ⟨-, -, hadds⟩ := ht.reportKeyword hend h
    refine ⟨hs.of_adds hadds (by simp), fun _ word hw ↦ ?_⟩
    obtain ⟨report, hlevel, hmessage, -, hevents⟩ := hadds
    obtain rfl : _ = some word := hw
    exact ⟨report, by simp [hevents], hlevel, by rw [hmessage, TokenTest.text_of_accepts h]⟩
  | @announce construct s =>
    obtain ⟨word, ⟨report, hlast, hlevel, hmessage⟩, hopens⟩ := hdue construct rfl
    simp only [Construct.opens, List.any_eq_true, Bool.and_eq_true, decide_eq_true_eq] at hopens
    obtain ⟨opened, -, hopener, rfl⟩ := hopens
    have hheralds : ∀ beginning : TraceEvent, beginning.message = "begin " ++ opened.text →
        report.Heralds beginning :=
      fun _ hbegin ↦ ⟨opened, word, hopener, hlevel, hmessage, hbegin⟩
    exact ⟨hs.of_adds (ht.announceConstruct _).2 fun _ ↦ ⟨report, hlast, hheralds⟩,
      fun _ word hw ↦ by cases hw⟩
  | @rule name _ _ _ _ ih =>
    obtain ⟨hintroduces, hnone⟩ := name.introduces_matcher
    exact ⟨(ih hintroduces ht hs (by simp [hnone])).1, fun _ word hw ↦ by cases hw⟩
  | bothStop _ he ih =>
    simp only [Matcher.introduces, Bool.and_eq_true] at hm
    exact ⟨(ih hm.1.1 ht hs hdue).1, fun h ↦ absurd h he⟩
  | @both a b s s₁ s' e ha hb iha ihb =>
    simp only [Matcher.introduces, Bool.and_eq_true] at hm
    obtain ⟨⟨hma, hmb⟩, hlead⟩ := hm
    obtain ⟨hs₁, hlast⟩ := iha hma ht hs hdue
    have hdue₁ : ∀ construct ∈ b.due, ∃ word, s₁.LastWord word ∧
        Construct.opens word construct = true := by
      intro construct hc
      rw [Option.all_eq_true] at hlead
      obtain ⟨word, hword, hopens⟩ := (Option.any_eq_true _ _).mp (hlead construct hc)
      exact ⟨word, hlast rfl word hword, hopens⟩
    refine ⟨(ihb hmb (ha.traces hend ht) hs₁ hdue₁).1, fun he word hw ↦ ?_⟩
    -- only a single token is read behind the keyword, and that is not reported
    cases b with
    | token test =>
      subst he
      cases hb with
      | accept => exact hlast rfl word hw
    | _ => cases hw
  | eitherStop _ he ih =>
    simp only [Matcher.introduces, Bool.and_eq_true, Option.isNone_iff_eq_none] at hm
    exact ⟨(ih hm.1.1.1 ht hs (by simp [hm.1.2])).1, fun _ word hw ↦ by cases hw⟩
  | either ha _ iha ihb =>
    simp only [Matcher.introduces, Bool.and_eq_true, Option.isNone_iff_eq_none] at hm
    have hs₁ := (iha hm.1.1.1 ht hs (by simp [hm.1.2])).1
    exact ⟨(ihb hm.1.1.2 (ha.traces hend ht) hs₁ (by simp [hm.2])).1,
      fun _ word hw ↦ by cases hw⟩
  | must h ih =>
    simp only [Matcher.introduces, Bool.and_eq_true, Option.isNone_iff_eq_none] at hm
    have hs₁ := (ih hm.1 ht hs (by simp [hm.2])).1
    exact ⟨hs₁.of_adds ((h.traces hend ht).complain _ _).2 (by simp), fun _ word hw ↦ by cases hw⟩
  | many h hr ih ihr =>
    have hm' := hm
    simp only [Matcher.introduces, Bool.and_eq_true, Option.isNone_iff_eq_none] at hm'
    have hs₁ := (ih hm'.1 ht hs (by simp [hm'.2])).1
    exact ihr hm (h.traces hend ht) hs₁ (fun _ hc ↦ by cases hc)
  | rewindStop _ he ih =>
    simp only [Matcher.introduces, Bool.and_eq_true, Option.isNone_iff_eq_none] at hm
    exact ih hm.1 ht hs (by simp [hm.2])
  | rewind _ ih =>
    simp only [Matcher.introduces, Bool.and_eq_true, Option.isNone_iff_eq_none] at hm
    exact ⟨(ih hm.1 ht hs (by simp [hm.2])).1, fun he ↦ by cases he⟩
  | rewindSign _ ih =>
    simp only [Matcher.introduces, Bool.and_eq_true, Option.isNone_iff_eq_none] at hm
    refine ⟨?_, fun he ↦ by cases he⟩
    split
    · exact (ih hm.1 ht hs (by simp [hm.2])).1
    · exact (ih hm.1 ht hs (by simp [hm.2])).1
  | mustStop _ _ ih | optionalStop _ _ ih | optional _ ih | manyStop _ _ _ ih | manyDone _ ih
  | rewindSignStop _ _ ih =>
    simp only [Matcher.introduces, Bool.and_eq_true, Option.isNone_iff_eq_none] at hm
    exact ⟨(ih hm.1 ht hs (by simp [hm.2])).1, fun _ word hw ↦ by cases hw⟩

/-! ### Committed constructs -/

/-- A run takes no event away. -/
theorem Runs.events_prefix (hend : setup.tape.Ends) (h : Runs setup m s e s') (ht : s.Traces) :
    s.events <+: s'.events := by
  have hadds {s s' : State} {level : Level} {message : String} (h : s.Adds level message s') :
      s.events <+: s'.events := by
    obtain ⟨event, -, -, -, hevents⟩ := h
    exact ⟨[event], hevents.symm⟩
  induction h with
  | keyword h => exact hadds (ht.reportKeyword hend h).2.2
  | announce => exact hadds (ht.announceConstruct _).2
  | must h ih => exact (ih ht).trans (hadds ((h.traces hend ht).complain _ _).2)
  | both ha _ iha ihb | either ha _ iha ihb | many ha _ iha ihb =>
    exact (iha ht).trans (ihb (ha.traces hend ht))
  | rewindSign _ ih =>
    split
    · exact ih ht
    · exact ih ht
  | accept | refuse | noKeyword => exact List.prefix_rfl
  | rule _ ih | bothStop _ _ ih | eitherStop _ _ ih | mustStop _ _ ih | optionalStop _ _ ih
  | optional _ ih | manyStop _ _ _ ih | manyDone _ ih | rewindStop _ _ ih | rewind _ ih
  | rewindSignStop _ _ ih => exact ih ht

/-- A matcher with a last word matches behind it, unless it does not match at all. -/
theorem Runs.adds_lastWord (hend : setup.tape.Ends) (h : Runs setup m s e s') {word : String}
    (hm : m.lastWord = some word) (he : e ≠ .unmatched) (ht : s.Traces) :
    e = .matched ∧ ∃ report : TraceEvent, report.level = .debug ∧
      report.message = "keyword " ++ word ∧ s'.events = s.events ++ [report] := by
  induction h with
  | @keyword _ s h =>
    obtain ⟨hmatched, -, report, hlevel, hmessage, -, hevents⟩ := ht.reportKeyword hend h
    obtain rfl : _ = some word := hm
    exact ⟨hmatched, report, hlevel, by rw [hmessage, TokenTest.text_of_accepts h], hevents⟩
  | @bothStop a b _ _ _ _ hne ih =>
    cases b with
    | token => exact absurd (ih hm he ht).1 hne
    | _ => cases hm
  | @both a b _ _ _ _ _ hb iha _ =>
    cases b with
    | token =>
      obtain ⟨-, hreport⟩ := iha hm (by simp) ht
      cases hb with
      | accept => exact ⟨rfl, hreport⟩
      | refuse => exact absurd rfl he
    | _ => cases hm
  | rewindStop _ _ ih => exact ih hm he ht
  | noKeyword | rewind => exact absurd rfl he
  | _ => cases hm

/-- A matcher that is to report the beginning of a construct does so before anything else. -/
theorem Runs.adds_due (hend : setup.tape.Ends) (h : Runs setup m s e s') {construct : String}
    (hm : m.due = some construct) (ht : s.Traces) :
    ∃ (beginning : TraceEvent) (rest : List TraceEvent), beginning.level = .info ∧
      beginning.message = "begin " ++ construct ∧ s'.events = s.events ++ beginning :: rest := by
  induction h with
  | @announce name s =>
    obtain rfl : name = construct := Option.some.inj hm
    obtain ⟨beginning, hlevel, hmessage, -, hevents⟩ := (ht.announceConstruct name).2
    exact ⟨beginning, [], hlevel, hmessage, hevents⟩
  | bothStop _ _ ih => exact ih hm ht
  | both ha hb iha _ =>
    obtain ⟨beginning, rest, hlevel, hmessage, hevents⟩ := iha hm ht
    obtain ⟨more, hmore⟩ := hb.events_prefix hend (ha.traces hend ht)
    exact ⟨beginning, rest ++ more, hlevel, hmessage, by simp [← hmore, hevents]⟩
  | _ => cases hm

/-- The matcher begins with a keyword, and reports the beginning of a construct behind it. -/
def Matcher.begins (word construct : String) : Matcher → Bool
  | both a b => a.begins word construct || (a.lastWord = some word && b.due = some construct)
  | _ => false

/-- A run that is committed by a keyword reports the keyword and then the beginning of the
construct, before anything else. -/
theorem Runs.adds_beginning (hend : setup.tape.Ends) (h : Runs setup m s e s')
    {word construct : String} (hm : m.begins word construct = true) (he : e ≠ .unmatched)
    (ht : s.Traces) :
    ∃ (report beginning : TraceEvent) (rest : List TraceEvent), report.level = .debug ∧
      report.message = "keyword " ++ word ∧ beginning.level = .info ∧
      beginning.message = "begin " ++ construct ∧
      s'.events = s.events ++ report :: beginning :: rest := by
  induction h with
  | bothStop h hne ih =>
    simp only [Matcher.begins, Bool.or_eq_true, Bool.and_eq_true, decide_eq_true_eq] at hm
    obtain hm | ⟨hword, -⟩ := hm
    · exact ih hm he ht
    · exact absurd (h.adds_lastWord hend hword he ht).1 hne
  | both ha hb iha _ =>
    have ht₁ := ha.traces hend ht
    simp only [Matcher.begins, Bool.or_eq_true, Bool.and_eq_true, decide_eq_true_eq] at hm
    obtain hm | ⟨hword, hdue⟩ := hm
    · obtain ⟨report, beginning, rest, hreport, hkeyword, hlevel, hmessage, hevents⟩ :=
        iha hm (by simp) ht
      obtain ⟨more, hmore⟩ := hb.events_prefix hend ht₁
      exact ⟨report, beginning, rest ++ more, hreport, hkeyword, hlevel, hmessage,
        by simp [← hmore, hevents]⟩
    · obtain ⟨-, report, hreport, hkeyword, hevents⟩ := ha.adds_lastWord hend hword (by simp) ht
      obtain ⟨beginning, rest, hlevel, hmessage, hevents'⟩ := hb.adds_due hend hdue ht₁
      exact ⟨report, beginning, rest, hreport, hkeyword, hlevel, hmessage,
        by simp [hevents', hevents]⟩
  | _ => cases hm

namespace Rule

/-- The construct that a nonterminal reads behind a keyword of its own. -/
def construct? : Rule → Option Construct
  | allbugsCode => some .allbugs
  | bugDefinition => some .bug
  | varDeclaration => some .declaration
  | initializationBlock => some .initialization
  | functionDefinition => some .function
  | loopStatement => some .loop
  | exitIfStatement => some .exitIf
  | switchStatement => some .switch
  | returnStatement => some .returnStatement
  | doStatement => some .doStatement
  | colorStatement => some .color
  | moveAction => some (.action .move)
  | moveToAction => some (.action .moveto)
  | turnAction => some (.action .turn)
  | turnToAction => some (.action .turnto)
  | lineAction => some (.action .line)
  | _ => none

theorem begins_matcher (rule : Rule) : ∀ construct ∈ rule.construct?,
    ∃ word ∈ construct.opener, rule.matcher.begins word construct.text = true :=
  of_all (by decide +kernel) rule

end Rule

/-- A nonterminal that is committed to a construct reports its keyword and its beginning, whether
the construct is complete or lacks a part. -/
theorem Runs.reports_beginning (hend : setup.tape.Ends) {rule : Rule}
    (h : Runs setup (.rule rule) s e s') {construct : Construct}
    (hc : rule.construct? = some construct) (he : e ≠ .unmatched) (ht : s.Traces) :
    ∃ (report beginning : TraceEvent) (rest : List TraceEvent),
      s'.events = s.events ++ report :: beginning :: rest ∧ report.Heralds beginning ∧
      beginning.level = .info ∧ beginning.message = "begin " ++ construct.text := by
  obtain ⟨word, hword, hbegins⟩ := rule.begins_matcher construct hc
  cases h with
  | rule h =>
    obtain ⟨report, beginning, rest, hreport, hkeyword, hlevel, hmessage, hevents⟩ :=
      h.adds_beginning hend hbegins he ht
    exact ⟨report, beginning, rest, hevents,
      ⟨construct, word, hword, hreport, hkeyword, hmessage⟩, hlevel, hmessage⟩

end Bugs
