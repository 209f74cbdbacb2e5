import Bugs.Proofs.Trace.Order

/-!
# What the trace tells of a run

Events are recorded while a matcher still tries, and none is ever taken back. All the same the
trace log tells exactly what was read: the reports of keywords are those of the keywords between the
first and the last position of the run, in their order. The only report that may be left over is
that of a `define` without a name, over which a function definition has gone back. It then is the
last report, and the cursor stands in front of that `define`.

A shape of matchers makes sure of that, and all nonterminals have it (`Matcher.accountable`). What
is left over is seen from how the run ends: behind a function definition that does not match, behind
a loop over function definitions, and with the complaint that comes next there, which is that the
closing brace is missing.

## Main definitions

* `keywordReports`: what is reported of a list of tokens.
* `Matcher.accountable`, `Tells`: the account of the keywords, and the matchers that it holds for.
* `Setup.takesBackDefine`: the runs that leave a report over.

## Main results

* `Runs.tells`.
* `Rule.trace_tells_what_was_read`.
-/

namespace Bugs

variable {setup : Setup} {m : Matcher} {s s' : State} {e : Ending}

/-! ### The keywords -/

/-- What is reported of the keywords among some tokens. -/
def keywordReports (tokens : List Token) : List String :=
  (tokens.filter (·.kind = .keyword)).map ("keyword " ++ ·.text)

@[simp] theorem keywordReports_nil : keywordReports [] = [] := rfl

@[simp] theorem keywordReports_append (v w : List Token) :
    keywordReports (v ++ w) = keywordReports v ++ keywordReports w := by
  simp [keywordReports]

theorem keywordReports_stretch (look : Nat → Token) {p q r : Nat} (hpq : p ≤ q) (hqr : q ≤ r) :
    keywordReports (stretch look p r) =
      keywordReports (stretch look p q) ++ keywordReports (stretch look q r) := by
  rw [← keywordReports_append, stretch_append look hpq hqr]

theorem keywordReports_of_accepts_ne {t : Token} {test : TokenTest} (h : test.accepts t = true)
    (hkind : test.kind ≠ .keyword) : keywordReports [t] = [] := by
  simp only [TokenTest.accepts, Bool.and_eq_true, decide_eq_true_eq] at h
  simp [keywordReports, h.1, hkind]

theorem keywordReports_of_accepts {t : Token} {word : Option String}
    (h : TokenTest.accepts ⟨.keyword, word⟩ t = true) :
    keywordReports [t] = ["keyword " ++ t.text] := by
  have hkind : t.kind = .keyword := by
    simp only [TokenTest.accepts, Bool.and_eq_true, decide_eq_true_eq] at h
    exact h.1
  simp [keywordReports, hkind]

namespace State

/-- The messages of the reports of keywords. -/
def words (s : State) : List String :=
  (s.events.filter (·.level = .debug)).map (·.message)

/-- The events that report no keyword. -/
def others (s : State) : List TraceEvent :=
  s.events.filter (·.level ≠ .debug)

variable {message : String}

theorem Adds.words (h : s.Adds .debug message s') : s'.words = s.words ++ [message] := by
  obtain ⟨event, hlevel, rfl, -, hevents⟩ := h
  simp [State.words, hevents, hlevel]

theorem Adds.others (h : s.Adds .debug message s') : s'.others = s.others := by
  obtain ⟨event, hlevel, -, -, hevents⟩ := h
  simp [State.others, hevents, hlevel]

theorem Adds.words_of_ne {level : Level} (h : s.Adds level message s') (hlevel : level ≠ .debug) :
    s'.words = s.words := by
  obtain ⟨event, rfl, -, -, hevents⟩ := h
  simp [State.words, hevents, hlevel]

end State

/-- A `define` stands at the position, and no name follows it. -/
def Setup.namelessDefine (setup : Setup) (position : Nat) : Bool :=
  TokenTest.accepts ⟨.keyword, some "define"⟩ (setup.tape.look position) &&
    (setup.tape.look (position + 1)).kind ≠ .name

theorem Setup.namelessDefine_of_refuses {position : Nat}
    (h : TokenTest.accepts ⟨.keyword, some "define"⟩ (setup.tape.look position) = false) :
    setup.namelessDefine position = false := by
  rw [namelessDefine, h, Bool.false_and]

/-- The complaint is about the brace that closes a construct. -/
def Complaint.isCloseBrace : Complaint → Bool
  | closeBrace _ => true
  | _ => false

namespace Matcher

/-- The beginning of a function definition. -/
def namedDefine : Matcher :=
  both (keyword (some "define")) anyName

/-- The matcher may go back over a `define` without a name, and then it does not match. -/
def recalls : Matcher → Bool
  | rule name => name = .functionDefinition
  | both a _ => a.recalls
  | rewind m => m = namedDefine
  | _ => false

/-- The matcher may match in front of a `define` without a name that it has gone back over. -/
def passesOver : Matcher → Bool
  | many m => m.recalls
  | _ => false

/-- A run of the matcher that ends so may leave the report of a `define` over. -/
def leavesOver (m : Matcher) : Ending → Bool
  | .matched => m.passesOver
  | .unmatched => m.recalls
  | .failed d => d.complaint.isCloseBrace
  | _ => false

/-- The matcher never leaves a report over where it does not fail. -/
def settles (m : Matcher) : Bool :=
  !m.recalls && !m.passesOver

/-- The matcher records nothing. -/
def silent : Matcher → Bool
  | token _ => true
  | both a b | either a b => a.silent && b.silent
  | optional m => m.silent
  | _ => false

/-- The matcher reads the brace that closes a construct. -/
def shuts : Matcher → Bool
  | both (must m (.closeBrace construct)) rest =>
    both (must m (.closeBrace construct)) rest = Rule.closeBrace construct
  | _ => false

/-- The keywords that the matcher reports are those that it reads, a `define` apart that it has gone
back over. -/
def accountable : Matcher → Bool
  | token test => test.kind ≠ .keyword
  | keyword _ | announce _ | rule _ => true
  | both a b => a.accountable &&
      if a.passesOver then b.shuts
      else b.accountable && b.settles && (b.sure || (a.silent && a.settles))
  | either a b => a.accountable && b.accountable && a.settles && b.settles
  | must m c => m.accountable && m.settles && !c.isCloseBrace
  | optional m => m.accountable && m.settles
  | many m => m.accountable && !m.passesOver
  | rewind m => m = namedDefine || (m.accountable && m.settles)
  | rewindSign m => m.accountable && m.settles

theorem exists_of_shuts {m : Matcher} (h : m.shuts = true) :
    ∃ construct, m = Rule.closeBrace construct := by
  unfold shuts at h
  split at h
  · exact ⟨_, of_decide_eq_true h⟩
  · cases h

end Matcher

theorem Rule.accountable_matcher (rule : Rule) :
    rule.matcher.accountable = true ∧ rule.matcher.passesOver = false ∧
      rule.matcher.recalls = (rule = .functionDefinition : Bool) :=
  of_all (by decide +kernel) rule

/-- The report that is left over after a run, if there is one. -/
def Setup.leftover (setup : Setup) (m : Matcher) (e : Ending) (position : Nat) : List String :=
  if m.leavesOver e && setup.namelessDefine position then ["keyword define"] else []

/-- What a run has added to the reports of keywords. A run without a match, and one that records
nothing, has read no keyword either. -/
structure Tells (setup : Setup) (m : Matcher) (s : State) (e : Ending) (s' : State) : Prop where
  words : s'.words = s.words ++
    keywordReports (stretch setup.tape.look s.cursor.position s'.cursor.position) ++
    setup.leftover m e s'.cursor.position
  quiet : e = .unmatched ∨ m.silent = true → s'.others = s.others ∧
    keywordReports (stretch setup.tape.look s.cursor.position s'.cursor.position) = []

theorem Setup.leftover_eq_nil {position : Nat} (h : m.leavesOver e = false) :
    setup.leftover m e position = [] := by
  simp [leftover, h]

theorem Setup.leftover_congr {m' : Matcher} {e' : Ending} {position : Nat}
    (h : m'.leavesOver e' = m.leavesOver e) :
    setup.leftover m' e' position = setup.leftover m e position := by
  rw [leftover, leftover, h]

namespace Matcher

theorem leavesOver_of_settles (hm : m.settles = true) (he : e = .matched ∨ e = .unmatched) :
    m.leavesOver e = false := by
  simp only [settles, Bool.and_eq_true, Bool.not_eq_true'] at hm
  rcases he with rfl | rfl
  · exact hm.2
  · exact hm.1

theorem leavesOver_both {a b : Matcher} (he : e ≠ .unmatched) (hb : b.passesOver = false) :
    (both a b).leavesOver e = b.leavesOver e := by
  cases e with
  | matched => exact hb.symm
  | unmatched => exact absurd rfl he
  | failed | offTape | nothingFetched | exhausted => rfl

/-- The beginning of a function definition apart, what is gone back over leaves nothing over. -/
theorem settles_rewind (hm : m.accountable = true) : (rewind m).settles = true := by
  have hne : m ≠ namedDefine := by
    rintro rfl
    exact absurd hm (by decide)
  simp [settles, recalls, passesOver, hne]

theorem leavesOver_congr {m' : Matcher} (hm : m.settles = true) (hm' : m'.settles = true) :
    m'.leavesOver e = m.leavesOver e := by
  cases e with
  | matched => rw [leavesOver_of_settles hm (.inl rfl), leavesOver_of_settles hm' (.inl rfl)]
  | unmatched => rw [leavesOver_of_settles hm (.inr rfl), leavesOver_of_settles hm' (.inr rfl)]
  | failed | offTape | nothingFetched | exhausted => rfl

end Matcher

/-- The run of the whole is the run of a part. -/
theorem Tells.whole {whole : Matcher} {e' : Ending} (h : Tells setup m s e s')
    (hleaves : whole.leavesOver e' = m.leavesOver e)
    (hquiet : e' = .unmatched ∨ whole.silent = true → e = .unmatched ∨ m.silent = true) :
    Tells setup whole s e' s' :=
  ⟨by rw [h.words, Setup.leftover_congr hleaves], fun hq ↦ h.quiet (hquiet hq)⟩

/-- The run of the whole consists of the runs of two parts. Nothing may be left over between them,
and where the whole is to have recorded nothing, so are the parts. -/
theorem Tells.followed {m' whole : Matcher} {e' : Ending} {s₁ : State}
    (h : Tells setup m s e s₁) (h' : Tells setup m' s₁ e' s')
    (hle : s.cursor.position ≤ s₁.cursor.position) (hle' : s₁.cursor.position ≤ s'.cursor.position)
    (hsettled : m.leavesOver e = false) (hleaves : whole.leavesOver e' = m'.leavesOver e')
    (hquiet : e' = .unmatched ∨ whole.silent = true →
      (e = .unmatched ∨ m.silent = true) ∧ (e' = .unmatched ∨ m'.silent = true)) :
    Tells setup whole s e' s' := by
  have hreports := keywordReports_stretch setup.tape.look hle hle'
  constructor
  · rw [h'.words, h.words, Setup.leftover_eq_nil hsettled, Setup.leftover_congr hleaves, hreports]
    simp only [List.append_nil, List.append_assoc]
  · intro hq
    obtain ⟨hq₁, hq₂⟩ := hquiet hq
    obtain ⟨hothers, hnone⟩ := h.quiet hq₁
    obtain ⟨hothers', hnone'⟩ := h'.quiet hq₂
    exact ⟨hothers'.trans hothers, by rw [hreports, hnone, hnone', List.append_nil]⟩

theorem Tells.of_events_eq (hevents : s'.events = s.events)
    (hnone : keywordReports (stretch setup.tape.look s.cursor.position s'.cursor.position) = [])
    (hleaves : m.leavesOver e = false) : Tells setup m s e s' := by
  have hwords : s'.words = s.words := by rw [State.words, State.words, hevents]
  have hothers : s'.others = s.others := by rw [State.others, State.others, hevents]
  refine ⟨?_, fun _ ↦ ⟨hothers, hnone⟩⟩
  rw [hwords, hnone, Setup.leftover_eq_nil hleaves, List.append_nil, List.append_nil]

/-- A run that is taken back has told all, if the part had read no keyword. -/
theorem Tells.rewound {m' : Matcher} (h : Tells setup m s .unmatched s') (hm : m.settles = true)
    (hm' : m'.settles = true) : Tells setup m' s .unmatched (s'.rewound s.cursor.mark) := by
  obtain ⟨hothers, hnone⟩ := h.quiet (.inl rfl)
  have hwords : s'.words = s.words := by
    rw [h.words, hnone, Setup.leftover_eq_nil (Matcher.leavesOver_of_settles hm (.inr rfl)),
      List.append_nil, List.append_nil]
  refine ⟨?_, fun _ ↦ ⟨hothers, by simp⟩⟩
  rw [Setup.leftover_eq_nil (Matcher.leavesOver_of_settles hm' (.inr rfl)), List.append_nil,
    State.position_rewound, Cursor.position_mark, stretch_self, keywordReports_nil, List.append_nil]
  exact hwords

/-- The beginning of a function definition reports its keyword, if it is there. -/
theorem Runs.namedDefine_cases (hend : setup.tape.Ends) (h : Runs setup .namedDefine s e s')
    (ht : s.Traces) :
    (e = .matched ∧ s'.words = s.words ++ keywordReports
      (stretch setup.tape.look s.cursor.position s'.cursor.position)) ∨
    (e = .unmatched ∧ s'.others = s.others ∧ s'.words = s.words ++
      if setup.namelessDefine s.cursor.position then ["keyword define"] else []) := by
  cases h with
  | bothStop h he =>
    cases h with
    | keyword h => exact absurd (ht.reportKeyword hend h).1 he
    | noKeyword h =>
      have hno := Setup.namelessDefine_of_refuses h
      exact .inr ⟨rfl, rfl, by rw [hno]; simp [State.words]⟩
  | both hdefine hname =>
    generalize he : Ending.matched = e₁ at hdefine
    cases hdefine with
    | noKeyword => cases he
    | keyword h =>
      obtain ⟨-, -, hadds⟩ := ht.reportKeyword hend h
      have hwords := hadds.words
      have hreports := keywordReports_of_accepts h
      cases hname with
      | accept hname =>
        have hname' : TokenTest.accepts ⟨.name, none⟩
            (setup.tape.look (s.cursor.position + 1)) = true := by
          simpa [Cursor.peek] using hname
        have hnone := keywordReports_of_accepts_ne hname' (by simp)
        refine .inl ⟨he, ?_⟩
        simp only [State.position_advanced, cursor_reportKeyword]
        rw [keywordReports_stretch _ (Nat.le_succ _) (Nat.le_succ _), stretch_succ, stretch_succ,
          hnone, List.append_nil]
        exact hwords.trans (congrArg _ hreports.symm)
      | refuse hname =>
        have hno : (setup.tape.look (s.cursor.position + 1)).kind ≠ .name := by
          simpa [TokenTest.accepts, Cursor.peek] using hname
        have hdefine : setup.namelessDefine s.cursor.position = true :=
          Bool.and_eq_true_iff.mpr ⟨h, by simpa using hno⟩
        have htext : (s.cursor.peek setup.tape).text = "define" := TokenTest.text_of_accepts h
        refine .inr ⟨rfl, hadds.others, ?_⟩
        rw [hdefine, if_pos rfl]
        rw [htext] at hwords
        exact hwords

/-- A token that must be there is read, or there is a complaint in front of the token that stands in
its place. -/
theorem Runs.must_token_cases {test : TokenTest} {c : Complaint}
    (h : Runs setup (.must (.token test) c) s e s') :
    (test.accepts (s.cursor.peek setup.tape) = true ∧ e = .matched ∧ s' = s.advanced setup) ∨
      ∃ d, e = .failed d ∧ d.complaint = c ∧ s' = (complain setup c s.refused).2 := by
  cases h with
  | mustStop h he =>
    cases h with
    | accept h => exact .inl ⟨h, rfl, rfl⟩
    | refuse => exact absurd rfl he
  | must h =>
    cases h with
    | refuse => exact .inr ⟨_, rfl, rfl, rfl⟩

/-- Where a construct is to be closed, no keyword is read. The brace is missing if a `define`
without a name stands there. -/
theorem Runs.closeBrace_cases {construct : Construct}
    (h : Runs setup (Rule.closeBrace construct) s e s') (ht : s.Traces) :
    s'.words = s.words ∧
      keywordReports (stretch setup.tape.look s.cursor.position s'.cursor.position) = [] ∧
      e ≠ .unmatched ∧
      ((Rule.closeBrace construct).leavesOver e && setup.namelessDefine s'.cursor.position) =
        setup.namelessDefine s.cursor.position := by
  have hwords {s : State} (ht : s.Traces) (c : Complaint) :
      (complain setup c s.refused).2.words = s.words :=
    (State.Traces.complain (s := s.refused) setup ht c).2.words_of_ne (by simp)
  cases h with
  | bothStop h he =>
    obtain ⟨-, hmatched, -⟩ | ⟨d, rfl, hd, rfl⟩ := h.must_token_cases
    · exact absurd hmatched he
    · refine ⟨hwords ht _, by simp, by simp, ?_⟩
      simp [Matcher.leavesOver, Complaint.isCloseBrace, hd]
  | both hbrace hline =>
    obtain ⟨haccepts, -, rfl⟩ | ⟨d, hd, -⟩ := hbrace.must_token_cases
    · have hnone : keywordReports [setup.tape.look s.cursor.position] = [] :=
        keywordReports_of_accepts_ne haccepts (by simp)
      have hno : setup.namelessDefine s.cursor.position = false :=
        Setup.namelessDefine_of_refuses (TokenTest.apart.not_accepts (by decide) haccepts)
      obtain ⟨haccepts', rfl, rfl⟩ | ⟨d, rfl, hd, rfl⟩ := hline.must_token_cases
      · have hnone' : keywordReports [setup.tape.look (s.cursor.position + 1)] = [] :=
          keywordReports_of_accepts_ne haccepts' (by simp)
        refine ⟨rfl, ?_, by simp, ?_⟩
        · simp only [State.position_advanced]
          rw [keywordReports_stretch _ (Nat.le_succ _) (Nat.le_succ _), stretch_succ, stretch_succ,
            hnone, hnone', List.append_nil]
        · simp [hno, Matcher.leavesOver, Matcher.passesOver, Rule.closeBrace]
      · refine ⟨hwords (s := s.advanced setup) ht _, ?_, by simp, ?_⟩
        · simp [hnone]
        · simp [hno, Matcher.leavesOver, Complaint.isCloseBrace, hd]
    · cases hd

/-- The reports of keywords are those of the keywords that were read, and at most that of a `define`
that was taken back. -/
theorem Runs.tells (hend : setup.tape.Ends) (h : Runs setup m s e s')
    (hm : m.accountable = true) (ht : s.Traces) : Tells setup m s e s' := by
  induction h with
  | @accept test s h =>
    refine .of_events_eq rfl ?_ rfl
    rw [State.position_advanced, stretch_succ]
    exact keywordReports_of_accepts_ne h (by simpa [Matcher.accountable] using hm)
  | refuse | noKeyword => exact .of_events_eq rfl (by simp) rfl
  | @keyword word s h =>
    obtain ⟨hmatched, -, hadds⟩ := ht.reportKeyword hend h
    rw [hmatched]
    refine ⟨?_, fun hq ↦ by simp [Matcher.silent] at hq⟩
    rw [hadds.words, cursor_reportKeyword, State.position_advanced, stretch_succ,
      Setup.leftover_eq_nil rfl, List.append_nil]
    exact congrArg _ (keywordReports_of_accepts h).symm
  | announce =>
    refine ⟨?_, fun hq ↦ by simp [Matcher.silent] at hq⟩
    rw [(ht.announceConstruct _).2.words_of_ne (by simp), Setup.leftover_eq_nil rfl]
    simp
  | @rule name _ _ e _ ih =>
    obtain ⟨hname, hpasses, hrecalls⟩ := name.accountable_matcher
    refine (ih hname ht).whole ?_ fun hq ↦ .inl (by simpa [Matcher.silent] using hq)
    cases e with
    | matched => exact hpasses.symm
    | unmatched => exact hrecalls.symm
    | failed | offTape | nothingFetched | exhausted => rfl
  | @bothStop a b _ _ e _ he ih =>
    simp only [Matcher.accountable, Bool.and_eq_true] at hm
    refine (ih hm.1 ht).whole ?_ (Or.imp_right fun hs ↦ by simp_all [Matcher.silent])
    cases e with
    | matched => exact absurd rfl he
    | unmatched | failed | offTape | nothingFetched | exhausted => rfl
  | @both a b s s₁ s' e ha hb iha ihb =>
    simp only [Matcher.accountable, Bool.and_eq_true] at hm
    obtain ⟨hma, hmb⟩ := hm
    split at hmb
    · -- a `define` that the loop has gone back over stands in place of the brace
      rename_i hpasses
      obtain ⟨construct, rfl⟩ := Matcher.exists_of_shuts hmb
      obtain ⟨hwords, hnone, hne, hleaves⟩ := hb.closeBrace_cases (ha.traces hend ht)
      have hreports := keywordReports_stretch setup.tape.look ha.position_le hb.position_le
      refine ⟨?_, fun hq ↦ by simp [hne, Matcher.silent, Rule.closeBrace] at hq⟩
      rw [hwords, (iha hma ht).words, hreports, hnone, List.append_nil, Setup.leftover,
        Setup.leftover, Matcher.leavesOver_both hne rfl, hleaves]
      simp [Matcher.leavesOver, hpasses]
    · rename_i hpasses
      have hsettled : a.leavesOver .matched = false := by
        simpa [Matcher.leavesOver] using hpasses
      simp only [Bool.and_eq_true, Bool.or_eq_true] at hmb
      obtain ⟨⟨hmb, hsettles⟩, hsure⟩ := hmb
      have htold := ihb hmb (ha.traces hend ht)
      have hsilent : (Matcher.both a b).silent = true → a.silent = true ∧ b.silent = true := by
        simp [Matcher.silent]
      rcases hsure with hsure | ⟨hsilenta, hsettlesa⟩
      · have hne := hb.ne_unmatched_of_sure hsure
        refine (iha hma ht).followed htold ha.position_le hb.position_le hsettled
          (Matcher.leavesOver_both hne (by simp_all [Matcher.settles])) fun hq ↦ ?_
        exact ⟨.inr (hsilent (hq.resolve_left hne)).1, .inr (hsilent (hq.resolve_left hne)).2⟩
      · have hwhole : (Matcher.both a b).settles = true := by
          simp only [Matcher.settles, Matcher.recalls, Matcher.passesOver, Bool.and_eq_true] at *
          exact ⟨hsettlesa.1, rfl⟩
        exact (iha hma ht).followed htold ha.position_le hb.position_le hsettled
          (Matcher.leavesOver_congr hsettles hwhole)
          fun hq ↦ ⟨.inr hsilenta, hq.imp_right fun hs ↦ (hsilent hs).2⟩
  | eitherStop _ he ih =>
    simp only [Matcher.accountable, Bool.and_eq_true] at hm
    refine (ih hm.1.1.1 ht).whole (Matcher.leavesOver_congr hm.1.2 rfl) (Or.imp_right fun hs ↦ ?_)
    simp_all [Matcher.silent]
  | either ha hb iha ihb =>
    simp only [Matcher.accountable, Bool.and_eq_true] at hm
    refine (iha hm.1.1.1 ht).followed (ihb hm.1.1.2 (ha.traces hend ht)) ha.position_le
      hb.position_le (Matcher.leavesOver_of_settles hm.1.2 (.inr rfl))
      (Matcher.leavesOver_congr hm.2 rfl) fun hq ↦ ⟨.inl rfl, hq.imp_right fun hs ↦ ?_⟩
    simp_all [Matcher.silent]
  | @must m c _ _ h ih =>
    simp only [Matcher.accountable, Bool.and_eq_true, Bool.not_eq_true'] at hm
    have hpart := ih hm.1.1 ht
    have hadds := ((h.traces hend ht).complain setup c).2
    refine ⟨?_, fun hq ↦ by simp [Matcher.silent, complain] at hq⟩
    rw [hadds.words_of_ne (by simp), hpart.words, cursor_complain,
      Setup.leftover_eq_nil (Matcher.leavesOver_of_settles hm.1.2 (.inr rfl)),
      Setup.leftover_eq_nil (show (Matcher.must m c).leavesOver (complain setup c _).1 = false from
        hm.2)]
  | many h hr ih ihr =>
    have hlap := hm
    simp only [Matcher.accountable, Bool.and_eq_true, Bool.not_eq_true'] at hlap
    refine (ih hlap.1 ht).followed (ihr hm (h.traces hend ht)) h.position_le hr.position_le
      hlap.2 rfl fun hq ↦ ?_
    rcases hq with he | hq
    · exact absurd he (hr.ne_unmatched_of_sure rfl)
    · cases hq
  | @manyStop m _ _ e _ hmatched hun ih =>
    simp only [Matcher.accountable, Bool.and_eq_true] at hm
    refine (ih hm.1 ht).whole ?_ fun hq ↦ .inl (by simpa [Matcher.silent] using hq)
    cases e with
    | matched => exact absurd rfl hmatched
    | unmatched => exact absurd rfl hun
    | failed | offTape | nothingFetched | exhausted => rfl
  | manyDone _ ih =>
    simp only [Matcher.accountable, Bool.and_eq_true] at hm
    exact (ih hm.1 ht).whole rfl fun hq ↦ by simp [Matcher.silent] at hq
  | optional _ ih =>
    simp only [Matcher.accountable, Bool.and_eq_true] at hm
    refine (ih hm.1 ht).whole ?_ fun _ ↦ .inl rfl
    rw [Matcher.leavesOver_of_settles hm.2 (.inr rfl)]
    rfl
  | mustStop _ _ ih =>
    simp only [Matcher.accountable, Bool.and_eq_true] at hm
    exact (ih hm.1.1 ht).whole (Matcher.leavesOver_congr hm.1.2 rfl)
      fun hq ↦ .inl (by simpa [Matcher.silent] using hq)
  | optionalStop _ _ ih =>
    simp only [Matcher.accountable, Bool.and_eq_true] at hm
    exact (ih hm.1 ht).whole (Matcher.leavesOver_congr hm.2 rfl) id
  | rewindStop h he ih =>
    simp only [Matcher.accountable, Bool.or_eq_true, Bool.and_eq_true, decide_eq_true_eq] at hm
    rcases hm with rfl | ⟨hm, hsettles⟩
    · obtain ⟨rfl, hwords⟩ | ⟨hun, -⟩ := h.namedDefine_cases hend ht
      · refine ⟨?_, fun hq ↦ by simp [Matcher.silent] at hq⟩
        rw [hwords, Setup.leftover_eq_nil rfl, List.append_nil]
      · exact absurd hun he
    · exact (ih hm ht).whole (Matcher.leavesOver_congr hsettles (Matcher.settles_rewind hm))
        fun hq ↦ .inl (by simpa [Matcher.silent] using hq)
  | @rewind m s s' h ih =>
    simp only [Matcher.accountable, Bool.or_eq_true, Bool.and_eq_true, decide_eq_true_eq] at hm
    rcases hm with rfl | ⟨hm, hsettles⟩
    · obtain ⟨hmatched, -⟩ | ⟨-, hothers, hwords⟩ := h.namedDefine_cases hend ht
      · cases hmatched
      · refine ⟨?_, fun _ ↦ ⟨hothers, by simp⟩⟩
        have hwords' : (s'.rewound s.cursor.mark).words = s'.words := rfl
        rw [hwords', hwords, State.position_rewound, Cursor.position_mark, stretch_self,
          keywordReports_nil, List.append_nil, Setup.leftover]
        simp [Matcher.leavesOver, Matcher.recalls]
    · exact (ih hm ht).rewound hsettles (Matcher.settles_rewind hm)
  | rewindSignStop _ _ ih =>
    simp only [Matcher.accountable, Bool.and_eq_true] at hm
    exact (ih hm.1 ht).whole (Matcher.leavesOver_congr hm.2 rfl)
      fun hq ↦ .inl (by simpa [Matcher.silent] using hq)
  | rewindSign _ ih =>
    simp only [Matcher.accountable, Bool.and_eq_true] at hm
    split
    · exact (ih hm.1 ht).rewound hm.2 rfl
    · exact (ih hm.1 ht).whole (Matcher.leavesOver_congr hm.2 rfl) fun _ ↦ .inl rfl

/-! ### The whole trace -/

/-- The messages of the events of a level. -/
def TraceLog.messages (log : TraceLog) (level : Level) : List String :=
  (log.events.toList.filter (·.level = level)).map (·.message)

/-- A run of the nonterminal that ended so in front of the position has gone back over a `define`,
because no name follows it: a function definition was tried there and has not matched. Either that
was the run, or the construct that holds it then lacks its closing brace. -/
def Setup.takesBackDefine (setup : Setup) (rule : Rule) (e : Ending) (position : Nat) : Bool :=
  setup.namelessDefine position &&
    match e with
    | .unmatched => rule = .functionDefinition
    | .failed d => d.complaint.isCloseBrace
    | _ => false

theorem Setup.leftover_rule (rule : Rule) (e : Ending) (position : Nat) :
    setup.leftover (.rule rule) e position =
      if setup.takesBackDefine rule e position then ["keyword define"] else [] := by
  unfold takesBackDefine
  rw [leftover, Bool.and_comm]
  cases e <;> rfl

theorem State.map_message_of_others_eq_nil (h : s.others = []) :
    s.events.map (·.message) = s.words := by
  have hall : ∀ event ∈ s.events, event.level = .debug := by
    simpa [State.others] using h
  rw [State.words, List.filter_eq_self.mpr (by simpa using hall)]

/-- A nonterminal that is run on a tape that ends, with an empty trace log that drops nothing,
leaves a log of what it has read. The keywords in it are those that were read, followed by the word
`define` if the run has gone back over it at the place where it stands. Every beginning of a
construct comes directly behind its keyword. A match leaves no error and nothing else over; without
a match there is nothing but what is left over, and only a function definition leaves it; a failure
is reported once, by the last event. -/
theorem Rule.trace_tells_what_was_read (hend : setup.tape.Ends) (rule : Rule) (cursor : Cursor) :
    let run := rule.run setup ⟨cursor, some (.empty .debug)⟩
    let position := run.2.cursor.position
    let extra := if setup.takesBackDefine rule run.1 position then ["keyword define"] else []
    ∃ log, run.2.log = some log ∧
      log.messages .debug =
        keywordReports (stretch setup.tape.look cursor.position position) ++ extra ∧
      Introduced log.events.toList ∧
      ((run.1 = .matched ∧ log.messages .error = [] ∧ extra = []) ∨
        (run.1 = .unmatched ∧ log.events.toList.map (·.message) = extra ∧
          (extra ≠ [] → rule = .functionDefinition)) ∨
        ∃ d, run.1 = .failed d ∧ EndWith log.events.toList d) := by
  intro run position extra
  let s : State := ⟨cursor, some (.empty .debug)⟩
  have hs : s.events = [] := rfl
  have ht : s.Traces := ⟨_, rfl, rfl⟩
  have hruns : Runs setup (.rule rule) s run.1 run.2 := rule.runs_run hend s
  obtain ⟨log, hlog, -⟩ := hruns.traces hend ht
  have hevents : run.2.events = log.events.toList := by rw [State.events, hlog]; rfl
  have hintroduced := (hruns.introduced hend rfl ht (by simp [hs, Introduced])
    (fun _ hc ↦ by cases hc)).1
  have hreports := hruns.reports hend ht (by simp [State.Faultless, hs])
  have htells := hruns.tells hend rfl ht
  have hwords : run.2.words = keywordReports (stretch setup.tape.look cursor.position position) ++
      extra := by
    simpa [Setup.leftover_rule, State.words, hs] using htells.words
  rw [hevents] at hintroduced
  have hmessages : log.messages .debug = run.2.words := by
    rw [TraceLog.messages, ← hevents, State.words]
  refine ⟨log, hlog, hmessages.trans hwords, hintroduced, ?_⟩
  have hanswer : run.1 = .matched ∨ run.1 = .unmatched ∨ ∃ d, run.1 = .failed d := by
    obtain ⟨v, hv, -⟩ := rule.reads_run hend s
    exact Ending.eq_of_verdict? hv
  rcases hanswer with he | he | ⟨d, he⟩
  · rw [he] at hreports
    have hextra : extra = [] := by simp [extra, Setup.takesBackDefine, he]
    refine .inl ⟨he, ?_, hextra⟩
    have hfaultless : ∀ event ∈ log.events.toList, event.level ≠ .error := hevents ▸ hreports
    simpa [TraceLog.messages] using hfaultless
  · obtain ⟨hothers, hnone⟩ := htells.quiet (.inl he)
    refine .inr (.inl ⟨he, ?_, fun hextra ↦ ?_⟩)
    · rw [← hevents, State.map_message_of_others_eq_nil hothers, hwords, hnone, List.nil_append]
    · have htakes : setup.takesBackDefine rule .unmatched position = true := by
        simpa [extra, he] using hextra
      exact of_decide_eq_true (Bool.and_eq_true_iff.mp htakes).2
  · rw [he] at hreports
    exact .inr (.inr ⟨d, he, hevents ▸ hreports⟩)

/-- In front of a `define` without a name a bug lacks its closing brace. The trace holds the word
although it was not read. -/
theorem Rule.trace_of_nameless_define :
    let token (kind : TokenKind) (text : String) : Token := ⟨kind, text, 1, 1⟩
    let tape := Tape.closing [token .keyword "Bug", token .name "b", token .symbol "\x7b",
      token .endOfLine "\n", token .keyword "move", token .number "1", token .endOfLine "\n",
      token .keyword "define", token .number "5"] (token .endOfInput "EOF")
    tape.Ends ∧ ∃ d s' log,
      Rule.bugDefinition.run ⟨tape, ⟨false, false⟩⟩ (.start (some (.empty .debug))) =
        (.failed d, s') ∧ s'.cursor.position = 7 ∧ s'.log = some log ∧
      log.messages .debug = ["keyword Bug", "keyword move", "keyword define"] ∧
      Introduced log.events.toList ∧ EndWith log.events.toList d := by
  intro token tape
  have hend : tape.Ends := by decide +kernel
  let setup : Setup := ⟨tape, ⟨false, false⟩⟩
  let d : Diagnostic := ⟨.closeBrace .bug, 1, none, .keyword, "define"⟩
  have hfailed : (Rule.bugDefinition.run setup ⟨.start, some (.empty .debug)⟩).1 = .failed d := by
    decide +kernel
  have hpos : (Rule.bugDefinition.run setup ⟨.start, some (.empty .debug)⟩).2.cursor.position =
      7 := by
    decide +kernel
  have htrace := @trace_tells_what_was_read setup hend .bugDefinition .start
  generalize hrun : Rule.bugDefinition.run setup ⟨.start, some (.empty .debug)⟩ = run
    at hfailed hpos htrace
  obtain ⟨e, s'⟩ := run
  obtain rfl : e = .failed d := hfailed
  obtain ⟨log, hlog, hwords, hintroduced, ⟨hmatched, -⟩ | ⟨hun, -⟩ | ⟨d', hd, hlast⟩⟩ := htrace
  · cases hmatched
  · cases hun
  · cases hd
    have htakes : setup.takesBackDefine .bugDefinition (.failed d) 7 = true := by decide +kernel
    have hread : keywordReports (stretch setup.tape.look 0 7) =
        ["keyword Bug", "keyword move"] := by
      decide +kernel
    refine ⟨hend, d, s', log, hrun, hpos, hlog, ?_, hintroduced, hlast⟩
    rw [hwords, show s'.cursor.position = 7 from hpos]
    dsimp only
    rw [if_pos htakes]
    exact congrArg (· ++ ["keyword define"]) hread

end Bugs
