import Bugs.Proofs.Stretch
import Bugs.Recognizer

/-!
# Finished runs

The interpreter of matchers has a budget, and a run that uses it up tells nothing. This file
describes the runs that finish, without a budget: `Runs setup m s e s'` says that the matcher `m`
takes the state `s` to the ending `e` and the state `s'`. Every run of the interpreter that does
not exhaust its budget is one of them (`Finishes.ruleRunWith`), so what all runs have in common is
proved by induction over `Runs`. The first such fact is about the line counter: it is a function
of the tokens between the two positions of a run (`Runs.line_eq`), whatever was fetched and put
back on the way.

## Main definitions

* `Runs`: the finished runs of a matcher.
* `Finishes`: what makes a reader of states a source of finished runs.
* `Setup.lineBehind`: the line counter behind a list of tokens.

## Main results

* `Finishes.ruleRunWith`: within any budget, what a nonterminal does is a finished run.
* `Runs.position_le`, `Runs.line_eq`: what a run does to the position and to the line counter.
* `Runs.diagnostic_eq`: a diagnostic speaks of the token at the cursor.
-/

namespace Bugs

/-! ### One token -/

namespace State

/-- The state behind the next token. -/
def advanced (state : State) (setup : Setup) : State :=
  { state with cursor := state.cursor.advance setup }

/-- The state with the next token fetched and put back. -/
def refused (state : State) : State :=
  state.rewound state.cursor.mark

@[simp] theorem position_advanced (state : State) (setup : Setup) :
    (state.advanced setup).cursor.position = state.cursor.position + 1 := rfl

@[simp] theorem position_rewound (state : State) (mark : Mark) :
    (state.rewound mark).cursor.position = mark.position := rfl

@[simp] theorem line_rewound (state : State) (mark : Mark) :
    (state.rewound mark).cursor.line = mark.line := rfl

@[simp] theorem position_refused (state : State) :
    state.refused.cursor.position = state.cursor.position := rfl

@[simp] theorem line_refused (state : State) :
    state.refused.cursor.line = state.cursor.line := rfl

end State

@[simp] theorem Cursor.position_mark (cursor : Cursor) :
    cursor.mark.position = cursor.position := rfl

@[simp] theorem Cursor.line_mark (cursor : Cursor) : cursor.mark.line = cursor.line := rfl

@[simp] theorem cursor_announceConstruct (construct : String) (state : State) :
    (announceConstruct construct state).cursor = state.cursor := rfl

@[simp] theorem cursor_complain (setup : Setup) (complaint : Complaint) (state : State) :
    (complain setup complaint state).2.cursor = state.cursor := rfl

@[simp] theorem cursor_reportKeyword (setup : Setup) (state : State) :
    (reportKeyword setup state).2.cursor = state.cursor := by
  unfold reportKeyword
  split
  · rfl
  · split <;> rfl

theorem readToken_of_accepts {setup : Setup} {test : TokenTest} {state : State}
    (h : test.accepts (state.cursor.peek setup.tape) = true) :
    readToken setup test state = (.matched, state.advanced setup) := by
  simp only [readToken, h, if_true, State.advanced]

theorem readToken_of_refuses {setup : Setup} {test : TokenTest} {state : State}
    (h : test.accepts (state.cursor.peek setup.tape) = false) :
    readToken setup test state = (.unmatched, state.refused) := by
  simp only [readToken, h, Bool.false_eq_true, if_false]
  rfl

/-! ### The relation -/

/-- The finished runs of a matcher, each from a state to an ending and a state. -/
inductive Runs (setup : Setup) : Matcher → State → Ending → State → Prop
  | accept {test : TokenTest} {s : State}
      (h : test.accepts (s.cursor.peek setup.tape) = true) :
      Runs setup (.token test) s .matched (s.advanced setup)
  | refuse {test : TokenTest} {s : State}
      (h : test.accepts (s.cursor.peek setup.tape) = false) :
      Runs setup (.token test) s .unmatched s.refused
  | keyword {word : Option String} {s : State}
      (h : TokenTest.accepts ⟨.keyword, word⟩ (s.cursor.peek setup.tape) = true) :
      Runs setup (.keyword word) s (reportKeyword setup (s.advanced setup)).1
        (reportKeyword setup (s.advanced setup)).2
  | noKeyword {word : Option String} {s : State}
      (h : TokenTest.accepts ⟨.keyword, word⟩ (s.cursor.peek setup.tape) = false) :
      Runs setup (.keyword word) s .unmatched s.refused
  | announce {construct : String} {s : State} :
      Runs setup (.announce construct) s .matched (announceConstruct construct s)
  | rule {name : Rule} {s s' : State} {e : Ending} (h : Runs setup name.matcher s e s') :
      Runs setup (.rule name) s e s'
  | bothStop {a b : Matcher} {s s' : State} {e : Ending} (h : Runs setup a s e s')
      (he : e ≠ .matched) : Runs setup (.both a b) s e s'
  | both {a b : Matcher} {s s₁ s' : State} {e : Ending} (ha : Runs setup a s .matched s₁)
      (hb : Runs setup b s₁ e s') : Runs setup (.both a b) s e s'
  | eitherStop {a b : Matcher} {s s' : State} {e : Ending} (h : Runs setup a s e s')
      (he : e ≠ .unmatched) : Runs setup (.either a b) s e s'
  | either {a b : Matcher} {s s₁ s' : State} {e : Ending} (ha : Runs setup a s .unmatched s₁)
      (hb : Runs setup b s₁ e s') : Runs setup (.either a b) s e s'
  | mustStop {m : Matcher} {c : Complaint} {s s' : State} {e : Ending} (h : Runs setup m s e s')
      (he : e ≠ .unmatched) : Runs setup (.must m c) s e s'
  | must {m : Matcher} {c : Complaint} {s s' : State} (h : Runs setup m s .unmatched s') :
      Runs setup (.must m c) s (complain setup c s').1 (complain setup c s').2
  | optionalStop {m : Matcher} {s s' : State} {e : Ending} (h : Runs setup m s e s')
      (he : e ≠ .unmatched) : Runs setup (.optional m) s e s'
  | optional {m : Matcher} {s s' : State} (h : Runs setup m s .unmatched s') :
      Runs setup (.optional m) s .matched s'
  | manyStop {m : Matcher} {s s' : State} {e : Ending} (h : Runs setup m s e s')
      (hm : e ≠ .matched) (hu : e ≠ .unmatched) : Runs setup (.many m) s e s'
  | manyDone {m : Matcher} {s s' : State} (h : Runs setup m s .unmatched s') :
      Runs setup (.many m) s .matched s'
  | many {m : Matcher} {s s₁ s' : State} {e : Ending} (h : Runs setup m s .matched s₁)
      (hr : Runs setup (.many m) s₁ e s') : Runs setup (.many m) s e s'
  | rewindStop {m : Matcher} {s s' : State} {e : Ending} (h : Runs setup m s e s')
      (he : e ≠ .unmatched) : Runs setup (.rewind m) s e s'
  | rewind {m : Matcher} {s s' : State} (h : Runs setup m s .unmatched s') :
      Runs setup (.rewind m) s .unmatched (s'.rewound s.cursor.mark)
  | rewindSignStop {m : Matcher} {s s' : State} {e : Ending} (h : Runs setup m s e s')
      (he : e ≠ .unmatched) : Runs setup (.rewindSign m) s e s'
  | rewindSign {m : Matcher} {s s' : State} (h : Runs setup m s .unmatched s') :
      Runs setup (.rewindSign m) s .unmatched
        (if setup.options.restoreSign then s'.rewound s.cursor.mark else s')

/-! ### The interpreter -/

section Interpreter

variable {setup : Setup}

/-- A reader all of whose results are finished runs of a matcher, those without budget apart. -/
def Finishes (setup : Setup) (m : Matcher) (run : Run) : Prop :=
  ∀ s e s', run s = (e, s') → e ≠ .exhausted → Runs setup m s e s'

theorem Finishes.repeatRun {m : Matcher} {body : Run} (hbody : Finishes setup m body)
    (laps : Nat) : Finishes setup (.many m) (repeatRun body laps) := by
  induction laps with
  | zero =>
    intro s e s' h he
    exact absurd (congrArg Prod.fst h).symm he
  | succ laps ih =>
    intro s e s' h he
    rw [Bugs.repeatRun] at h
    split at h
    · rename_i next hb
      exact .many (hbody _ _ _ hb (by simp)) (ih _ _ _ h he)
    · rename_i next hb
      cases h
      exact .manyDone (hbody _ _ _ hb (by simp))
    · rename_i hm hu
      exact .manyStop (hbody _ _ _ h he) (fun h' ↦ hm s' (h' ▸ h)) (fun h' ↦ hu s' (h' ▸ h))

/-- What the interpreter does with a matcher is a finished run, if this holds of the
nonterminals that the matcher calls. -/
theorem Finishes.runWith {call : Rule → Run}
    (hcall : ∀ rule, Finishes setup (.rule rule) (call rule)) (laps : Nat) (m : Matcher) :
    Finishes setup m (m.runWith setup call laps) := by
  induction m with
  | token test =>
    intro s e s' h _
    rw [Matcher.runWith] at h
    cases ht : test.accepts (s.cursor.peek setup.tape) with
    | true => rw [readToken_of_accepts ht] at h; cases h; exact .accept ht
    | false => rw [readToken_of_refuses ht] at h; cases h; exact .refuse ht
  | keyword word =>
    intro s e s' h _
    rw [Matcher.runWith] at h
    cases ht : TokenTest.accepts ⟨.keyword, word⟩ (s.cursor.peek setup.tape) with
    | true =>
      rw [readToken_of_accepts ht] at h
      have hr : reportKeyword setup (s.advanced setup) = (e, s') := h
      have hrun := Runs.keyword ht
      rwa [hr] at hrun
    | false => rw [readToken_of_refuses ht] at h; cases h; exact .noKeyword ht
  | announce construct =>
    intro s e s' h _
    rw [Matcher.runWith] at h
    cases h
    exact .announce
  | rule name =>
    intro s e s' h he
    exact hcall name _ _ _ h he
  | both a b iha ihb =>
    intro s e s' h he
    rw [Matcher.runWith] at h
    split at h
    · rename_i next ha
      exact .both (iha _ _ _ ha (by simp)) (ihb _ _ _ h he)
    · rename_i hstop
      exact .bothStop (iha _ _ _ h he) fun h' ↦ hstop s' (h' ▸ h)
  | either a b iha ihb =>
    intro s e s' h he
    rw [Matcher.runWith] at h
    split at h
    · rename_i next ha
      exact .either (iha _ _ _ ha (by simp)) (ihb _ _ _ h he)
    · rename_i hstop
      exact .eitherStop (iha _ _ _ h he) fun h' ↦ hstop s' (h' ▸ h)
  | must m c ih =>
    intro s e s' h he
    rw [Matcher.runWith] at h
    split at h
    · rename_i next hm
      have hc := Runs.must (c := c) (ih _ _ _ hm (by simp))
      rwa [h] at hc
    · rename_i hstop
      exact .mustStop (ih _ _ _ h he) fun h' ↦ hstop s' (h' ▸ h)
  | optional m ih =>
    intro s e s' h he
    rw [Matcher.runWith] at h
    split at h
    · rename_i next hm
      cases h
      exact .optional (ih _ _ _ hm (by simp))
    · rename_i hstop
      exact .optionalStop (ih _ _ _ h he) fun h' ↦ hstop s' (h' ▸ h)
  | many m ih =>
    intro s e s' h he
    exact ih.repeatRun laps _ _ _ h he
  | rewind m ih =>
    intro s e s' h he
    rw [Matcher.runWith] at h
    split at h
    · rename_i next hm
      cases h
      exact .rewind (ih _ _ _ hm (by simp))
    · rename_i hstop
      exact .rewindStop (ih _ _ _ h he) fun h' ↦ hstop s' (h' ▸ h)
  | rewindSign m ih =>
    intro s e s' h he
    rw [Matcher.runWith] at h
    split at h
    · rename_i next hm
      cases h
      exact .rewindSign (ih _ _ _ hm (by simp))
    · rename_i hstop
      exact .rewindSignStop (ih _ _ _ h he) fun h' ↦ hstop s' (h' ▸ h)

/-- Within any budget, what a nonterminal does is a finished run. -/
theorem Finishes.ruleRunWith (budget : Nat) (rule : Rule) :
    Finishes setup (.rule rule) (rule.runWith Rule.matcher setup budget) := by
  induction budget generalizing rule with
  | zero =>
    intro s e s' h he
    exact absurd (congrArg Prod.fst h).symm he
  | succ budget ih =>
    intro s e s' h he
    exact .rule (Finishes.runWith ih budget rule.matcher _ _ _ h he)

end Interpreter

/-! ### Positions and lines -/

/-- The line counter behind some tokens: it is one more than the line of the last line end among
them, if there is one and lines are tracked. -/
def Setup.lineBehind (setup : Setup) (line : Int) (tokens : List Token) : Int :=
  tokens.foldl
    (fun line token ↦
      if token.kind = .endOfLine ∧ setup.options.trackLines then token.line + 1 else line) line

@[simp] theorem Setup.lineBehind_nil (setup : Setup) (line : Int) :
    setup.lineBehind line [] = line := rfl

theorem Setup.lineBehind_append (setup : Setup) (line : Int) (v w : List Token) :
    setup.lineBehind line (v ++ w) = setup.lineBehind (setup.lineBehind line v) w :=
  List.foldl_append

@[simp] theorem State.line_advanced (state : State) (setup : Setup) :
    (state.advanced setup).cursor.line =
      setup.lineBehind state.cursor.line [setup.tape.look state.cursor.position] := rfl

namespace Runs

variable {setup : Setup} {m : Matcher} {s s' : State} {e : Ending}

/-- No run ends before the place where it began. -/
theorem position_le (h : Runs setup m s e s') : s.cursor.position ≤ s'.cursor.position := by
  induction h with
  | both _ _ iha ihb | either _ _ iha ihb | many _ _ iha ihb => exact Nat.le_trans iha ihb
  | rewindSign _ ih =>
    split
    · exact Nat.le_refl _
    · exact ih
  | accept | keyword | refuse | noKeyword | announce | rewind => simp
  | rule _ ih | bothStop _ _ ih | eitherStop _ _ ih | mustStop _ _ ih | optionalStop _ _ ih
  | manyStop _ _ _ ih | rewindStop _ _ ih | rewindSignStop _ _ ih | optional _ ih
  | manyDone _ ih => exact ih
  | must _ ih => simpa using ih

/-- The line counter follows the tokens between the two positions of a run. What was fetched
beyond the second position and put back leaves no trace in it. -/
theorem line_eq (h : Runs setup m s e s') :
    s'.cursor.line = setup.lineBehind s.cursor.line
      (stretch setup.tape.look s.cursor.position s'.cursor.position) := by
  have hjoin {s s₁ s' : State} (hle : s.cursor.position ≤ s₁.cursor.position)
      (hle' : s₁.cursor.position ≤ s'.cursor.position)
      (h : s₁.cursor.line = setup.lineBehind s.cursor.line
        (stretch setup.tape.look s.cursor.position s₁.cursor.position))
      (h' : s'.cursor.line = setup.lineBehind s₁.cursor.line
        (stretch setup.tape.look s₁.cursor.position s'.cursor.position)) :
      s'.cursor.line = setup.lineBehind s.cursor.line
        (stretch setup.tape.look s.cursor.position s'.cursor.position) := by
    rw [← stretch_append _ hle hle', Setup.lineBehind_append, ← h, h']
  induction h with
  | both ha hb iha ihb | either ha hb iha ihb | many ha hb iha ihb =>
    exact hjoin ha.position_le hb.position_le iha ihb
  | rewindSign _ ih =>
    split
    · simp
    · exact ih
  | accept | keyword | refuse | noKeyword | announce | rewind => simp
  | rule _ ih | bothStop _ _ ih | eitherStop _ _ ih | mustStop _ _ ih | optionalStop _ _ ih
  | manyStop _ _ _ ih | rewindStop _ _ ih | rewindSignStop _ _ ih | optional _ ih
  | manyDone _ ih => exact ih
  | must _ ih => simpa using ih

/-- A run neither attaches a trace log nor takes one away. -/
theorem isSome_log (h : Runs setup m s e s') : s'.log.isSome = s.log.isSome := by
  induction h with
  | keyword =>
    unfold reportKeyword
    split
    · rfl
    · split
      · simp [State.record, State.advanced]
      · rfl
  | announce => simp [announceConstruct, State.record]
  | must _ ih => simpa [complain, State.record] using ih
  | both _ _ iha ihb | either _ _ iha ihb | many _ _ iha ihb => exact ihb.trans iha
  | rewindSign _ ih =>
    split
    · exact ih
    · exact ih
  | accept | refuse | noKeyword => rfl
  | rule _ ih | bothStop _ _ ih | eitherStop _ _ ih | mustStop _ _ ih | optionalStop _ _ ih
  | optional _ ih | manyStop _ _ _ ih | manyDone _ ih | rewindStop _ _ ih | rewind _ ih
  | rewindSignStop _ _ ih => exact ih

/-- A run that fails leaves the cursor in front of the token that its diagnostic speaks of. The line
is that of the line counter there. -/
theorem diagnostic_eq {d : Diagnostic} (h : Runs setup m s (.failed d) s') :
    d = ⟨d.complaint, s'.cursor.line,
      if setup.options.trackLines then some (s'.cursor.peek setup.tape).column else none,
      (s'.cursor.peek setup.tape).kind, (s'.cursor.peek setup.tape).text⟩ := by
  generalize he : Ending.failed d = e at h
  induction h with
  | accept | refuse | noKeyword | announce | optional | manyDone | rewind | rewindSign => cases he
  | keyword =>
    unfold reportKeyword at he
    split at he
    · cases he
    · split at he <;> cases he
  | must _ =>
    cases he
    rfl
  | rule _ ih | bothStop _ _ ih | both _ _ _ ih | eitherStop _ _ ih | either _ _ _ ih
  | mustStop _ _ ih | optionalStop _ _ ih | manyStop _ _ _ ih | many _ _ _ ih
  | rewindStop _ _ ih | rewindSignStop _ _ ih => exact ih he

end Runs

end Bugs
