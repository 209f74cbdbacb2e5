import Bugs.Proofs.Matcher.Border
import Bugs.Proofs.NoConsumption

/-!
# What restoring a sign changes

The option to restore signs matters only where an expression was due and a sign stands that no term
follows. With the option the expression ends in front of the sign, without it behind the sign.
Everywhere but in one place a complaint comes next, and it is the same one. The one place is the
beginning of a parameter list: behind the sign its closing parenthesis may come, and then a list
that holds a lone sign is accepted.

So two runs of a nonterminal that differ in the option alone are compared reading by reading. The
reading without restored signs goes the same way, or it ends the same way one sign further on, or
there is a lone sign between parentheses and the reading with restored signs has failed
(`Reads.unrestored`).

## Main definitions

* `LoneSign`, `Tape.HasLoneSign`: a sign alone between parentheses.
* `Matcher.fenced`: a sign is dropped without a complaint only behind an opening parenthesis.
* `Unrestored`: how a reading goes where signs are not restored.

## Main results

* `Reads.unrestored`.
* `Rule.run_restoring`.
-/

namespace Bugs

variable {look : Nat → Token} {p q : Nat} {v : Verdict} {m : Matcher}

/-- An opening parenthesis, a sign and a closing parenthesis stand next to each other. -/
def LoneSign (look : Nat → Token) (i : Nat) : Prop :=
  TokenTest.accepts ⟨.symbol, some "("⟩ (look i) = true ∧ (look (i + 1)).isSign = true ∧
    TokenTest.accepts ⟨.symbol, some ")"⟩ (look (i + 2)) = true

instance (look : Nat → Token) (i : Nat) : Decidable (LoneSign look i) :=
  inferInstanceAs (Decidable (_ ∧ _))

/-- Three tokens of the tape that follow one another are a sign between parentheses. -/
def Tape.HasLoneSign (tape : Tape) : Prop :=
  ∃ i < tape.size - 2, LoneSign tape.look i

instance (tape : Tape) : Decidable tape.HasLoneSign :=
  inferInstanceAs (Decidable (∃ i < tape.size - 2, LoneSign tape.look i))

/-! ### Where signs are dropped -/

namespace Matcher

/-- The matcher matches although it may have dropped a sign. -/
def lax : Matcher → Bool
  | optional m => m.drops
  | _ => false

/-- The matcher begins with a part that matches although it may have dropped a sign. -/
def leadsLax : Matcher → Bool
  | both a _ => a.lax
  | _ => false

/-- The matcher demands a closing parenthesis. -/
def demandsClosing : Matcher → Bool
  | must m _ => m = symbol ")"
  | _ => false

/-- A part that matches although it may have dropped a sign stands behind an opening parenthesis,
and a closing one is demanded behind it. Where a sign is given back, it was to begin an arithmetic
expression. -/
def fenced : Matcher → Bool
  | token _ | keyword _ | announce _ | rule _ => true
  | both a b =>
    a.fenced && b.fenced && !a.leadsLax && !b.lax && (!a.lax || b.demandsClosing) &&
      (!b.leadsLax || a = symbol "(")
  | either a b => a.fenced && b.fenced && !a.lax && !a.leadsLax && !b.lax && !b.leadsLax
  | must m _ | optional m | many m | rewind m => m.fenced && !m.lax && !m.leadsLax
  | rewindSign m => m = both (optional Rule.sign) (rule .term)

theorem fenced_part {m : Matcher} (h : (m.fenced && !m.lax && !m.leadsLax) = true) :
    m.fenced = true ∧ m.lax = false ∧ m.leadsLax = false := by
  simpa only [Bool.and_eq_true, Bool.not_eq_true', and_assoc] using h

end Matcher

/-- The matchers of the nonterminals are fenced, found by evaluation. -/
theorem Rule.fenced_matcher (rule : Rule) :
    rule.matcher.fenced = true ∧ rule.matcher.lax = false ∧ rule.matcher.leadsLax = false :=
  of_all (by decide +kernel) rule

/-! ### Two readings -/

/-- How a matcher reads where signs are not restored, if with restored signs it reads from one
position to another with a verdict. -/
inductive Unrestored (look : Nat → Token) (m : Matcher) (p : Nat) (v : Verdict) (q : Nat) : Prop
  | same (h : Reads look false m p v q)
  /-- The sign at the end of the one reading is behind the end of the other. -/
  | further (h : Reads look false m p v (q + 1)) (hs : (look q).isSign = true)
      (hlax : v = .matched → m.lax = true ∧ q = p)
  /-- The one reading fails at a lone sign, which the other one may accept. -/
  | lone {c : Complaint} {i : Nat} (hv : v = .failed c) (h : LoneSign look i)

/-- A matcher that reads as a part of it does, goes the way of the part. -/
theorem Unrestored.lift {part : Matcher} {r : Nat} (h : Unrestored look part r v q)
    (hlax : v = .matched → part.lax = false)
    (hpart : ∀ q, Reads look false part r v q → Reads look false m p v q) :
    Unrestored look m p v q := by
  cases h with
  | same h => exact .same (hpart _ h)
  | further h hs hmatched =>
    refine .further (hpart _ h) hs fun hv ↦ ?_
    rw [hlax hv] at hmatched
    cases (hmatched hv).1
  | lone hv h => exact .lone hv h

theorem Token.not_closes_of_isSign {t : Token} (h : t.isSign = true) :
    TokenTest.accepts ⟨.symbol, some ")"⟩ t = false := by
  have hap : testsApart [⟨.symbol, some ")"⟩] Rule.sign.first = true := by decide
  rw [isSign_eq_passes] at h
  simpa [passes] using passes_of_apart hap h

/-- Behind a part that has dropped a sign, a closing parenthesis is demanded in vain, unless the
sign is a lone one. -/
private theorem Unrestored.of_dropped {a b : Matcher}
    (hopen : ∃ i, p = i + 1 ∧ TokenTest.accepts ⟨.symbol, some "("⟩ (look i) = true)
    (hs : (look p).isSign = true) (ha : Reads look false a p .matched (p + 1))
    (hb : Reads look true b p v q) (hclosing : b.demandsClosing = true) :
    Unrestored look (.both a b) p v q := by
  obtain ⟨i, rfl, hi⟩ := hopen
  cases b with
  | must m c =>
    obtain rfl : m = .symbol ")" := of_decide_eq_true hclosing
    have hfailed : Reads look true (.must (.symbol ")") c) (i + 1) (.failed c) (i + 1) :=
      .must (.refuse (Token.not_closes_of_isSign hs))
    obtain ⟨rfl, rfl⟩ := hb.deterministic hfailed
    cases ht : TokenTest.accepts ⟨.symbol, some ")"⟩ (look (i + 1 + 1)) with
    | true => exact .lone rfl ⟨hi, hs, ht⟩
    | false => exact .further (.both ha (.must (.refuse ht))) hs (by simp)
  | token | keyword | announce | rule | both | either | optional | many | rewind
  | rewindSign => cases hclosing

/-- Where the beginning of an arithmetic expression gives a sign back, it drops it if signs are not
restored. -/
private theorem Unrestored.of_signed_term
    (h : Reads look true (.both (.optional Rule.sign) (.rule .term)) p .unmatched q) :
    Unrestored look (.rewindSign (.both (.optional Rule.sign) (.rule .term))) p .unmatched p := by
  obtain ⟨rfl, ht⟩ := h.of_signed_term
  have hr : Reads look false (.rewindSign (.both (.optional Rule.sign) (.rule .term))) p
      .unmatched _ := .rewindSign (reads_signed_term ht)
  rw [if_neg Bool.false_ne_true] at hr
  split at hr
  · rename_i hs
    exact .further hr hs (by simp)
  · exact .same hr

/-- A part that has not matched and may not drop signs has read nothing, so the two readings of it
do not differ. -/
private theorem Unrestored.stays (h : Unrestored look m p .unmatched q) (hle : p ≤ q)
    (hm : m.tidy = true) (hd : m.drops = false) : Reads look false m p .unmatched q := by
  cases h with
  | same h => exact h
  | further h =>
    have hp := h.stays hm hd
    omega
  | lone hv => cases hv

/-- A regular matcher reads the same where signs are not restored, or it ends in the same way behind
the next sign, or it has failed at a lone sign. -/
theorem Reads.unrestored (h : Reads look true m p v q) (hm : m.regular = true)
    (hf : m.fenced = true) (hopen : m.leadsLax = true →
      ∃ i, p = i + 1 ∧ TokenTest.accepts ⟨.symbol, some "("⟩ (look i) = true) :
    Unrestored look m p v q := by
  induction h with
  | accept h => exact .same (.accept h)
  | refuse h => exact .same (.refuse h)
  | keyword h => exact .same (.keyword h)
  | noKeyword h => exact .same (.noKeyword h)
  | announce => exact .same .announce
  | @rule name _ _ _ _ ih =>
    obtain ⟨hfenced, hlax, hlead⟩ := name.fenced_matcher
    have hbody := ih name.regular_matcher hfenced (by simp [hlead])
    exact hbody.lift (fun _ ↦ hlax) fun _ ↦ .rule
  | bothStop _ hv ih =>
    simp only [Matcher.regular, Matcher.fenced, Bool.and_eq_true, Bool.not_eq_true'] at hm hf
    obtain ⟨⟨⟨⟨⟨hfa, -⟩, hlead⟩, -⟩, -⟩, -⟩ := hf
    exact (ih hm.1.1 hfa (by simp [hlead])).lift (fun h ↦ absurd h hv) fun _ h ↦ .bothStop h hv
  | @both a b _ _ _ _ ha hb iha ihb =>
    simp only [Matcher.regular, Matcher.fenced, Bool.and_eq_true, Bool.or_eq_true,
      Bool.not_eq_true', decide_eq_true_eq] at hm hf
    obtain ⟨⟨⟨⟨⟨hfa, hfb⟩, hlead⟩, hlax⟩, hclosing⟩, hopening⟩ := hf
    cases iha hm.1.1 hfa (by simp [hlead]) with
    | same ha' =>
      refine (ihb hm.1.2 hfb fun hl ↦ ?_).lift (fun _ ↦ hlax) fun _ ↦ .both ha'
      obtain rfl := hopening.resolve_left (by simp [hl])
      cases ha with
      | accept ht => exact ⟨_, rfl, ht⟩
    | further ha' hs hmatched =>
      obtain ⟨hla, rfl⟩ := hmatched rfl
      exact .of_dropped (hopen hla) hs ha' hb (hclosing.resolve_left (by simp [hla]))
    | lone hv => cases hv
  | eitherStop _ hv ih =>
    simp only [Matcher.regular, Matcher.fenced, Bool.and_eq_true, Bool.not_eq_true'] at hm hf
    obtain ⟨⟨⟨⟨⟨hfa, -⟩, hla⟩, hlead⟩, -⟩, -⟩ := hf
    exact (ih hm.1.1.1 hfa (by simp [hlead])).lift (fun _ ↦ hla) fun _ h ↦ .eitherStop h hv
  | either ha _ iha ihb =>
    simp only [Matcher.regular, Matcher.fenced, Bool.and_eq_true, Bool.not_eq_true'] at hm hf
    obtain ⟨⟨⟨⟨⟨hfa, hfb⟩, -⟩, hleada⟩, hlb⟩, hleadb⟩ := hf
    have ha' := (iha hm.1.1.1 hfa (by simp [hleada])).stays ha.le hm.1.2 hm.2
    exact (ihb hm.1.1.2 hfb (by simp [hleadb])).lift (fun _ ↦ hlb) fun _ ↦ .either ha'
  | mustStop _ hv ih =>
    obtain ⟨hfenced, hlax, hlead⟩ := Matcher.fenced_part hf
    simp only [Matcher.regular, Bool.and_eq_true] at hm
    exact (ih hm.1 hfenced (by simp [hlead])).lift (fun _ ↦ hlax) fun _ h ↦ .mustStop h hv
  | must _ ih =>
    obtain ⟨hfenced, -, hlead⟩ := Matcher.fenced_part hf
    simp only [Matcher.regular, Bool.and_eq_true] at hm
    cases ih hm.1 hfenced (by simp [hlead]) with
    | same h => exact .same (.must h)
    | further h hs => exact .further (.must h) hs (by simp)
    | lone hv => cases hv
  | optionalStop _ hv ih =>
    obtain ⟨hfenced, hlax, hlead⟩ := Matcher.fenced_part hf
    simp only [Matcher.regular, Bool.and_eq_true] at hm
    exact (ih hm.1 hfenced (by simp [hlead])).lift (fun _ ↦ hlax) fun _ h ↦ .optionalStop h hv
  | @optional m p q h ih =>
    obtain ⟨hfenced, -, hlead⟩ := Matcher.fenced_part hf
    simp only [Matcher.regular, Bool.and_eq_true] at hm
    have hstays : q = p := by
      rcases h.stays_or_drops hm.2 with hq | ⟨hrestore, -⟩
      · exact hq
      · cases hrestore
    have hpart := ih hm.1 hfenced (by simp [hlead])
    cases hd : m.drops with
    | false => exact .same (.optional (hpart.stays h.le hm.2 hd))
    | true =>
      cases hpart with
      | same h => exact .same (.optional h)
      | further h hs => exact .further (.optional h) hs fun _ ↦ ⟨hd, hstays⟩
      | lone hv => cases hv
  | manyStop _ ih =>
    obtain ⟨hfenced, hlax, hlead⟩ := Matcher.fenced_part hf
    simp only [Matcher.regular, Bool.and_eq_true] at hm
    exact (ih hm.1.1.1.1 hfenced (by simp [hlead])).lift (fun _ ↦ hlax) fun _ ↦ .manyStop
  | manyDone h ih =>
    obtain ⟨hfenced, -, hlead⟩ := Matcher.fenced_part hf
    simp only [Matcher.regular, Bool.and_eq_true, Bool.not_eq_true'] at hm
    obtain ⟨⟨⟨⟨hregular, htidy⟩, hdrops⟩, -⟩, -⟩ := hm
    exact .same (.manyDone ((ih hregular hfenced (by simp [hlead])).stays h.le htidy hdrops))
  | many _ _ ih ihr =>
    have hlap := ihr hm hf (by simp [Matcher.leadsLax])
    obtain ⟨hfenced, hlax, hlead⟩ := Matcher.fenced_part hf
    simp only [Matcher.regular, Bool.and_eq_true] at hm
    cases ih hm.1.1.1.1 hfenced (by simp [hlead]) with
    | same h => exact hlap.lift (fun _ ↦ rfl) fun _ ↦ .many h
    | further _ _ hmatched => cases hlax.symm.trans (hmatched rfl).1
    | lone hv => cases hv
  | rewindStop _ hv ih =>
    obtain ⟨hfenced, hlax, hlead⟩ := Matcher.fenced_part hf
    exact (ih hm hfenced (by simp [hlead])).lift (fun _ ↦ hlax) fun _ h ↦ .rewindStop h hv
  | rewind _ ih =>
    obtain ⟨hfenced, -, hlead⟩ := Matcher.fenced_part hf
    -- wherever the part has stopped, both readings go back to where it began
    cases ih hm hfenced (by simp [hlead]) with
    | same h | further h => exact .same (.rewind h)
    | lone hv => cases hv
  | rewindSignStop _ hv ih =>
    obtain rfl := of_decide_eq_true hf
    have hlead : (Matcher.both (.optional Rule.sign) (.rule .term)).leadsLax = false := rfl
    have hpart := ih hm (by decide) (by simp [hlead])
    exact hpart.lift (fun _ ↦ rfl) fun _ h ↦ .rewindSignStop h hv
  | rewindSign h =>
    obtain rfl := of_decide_eq_true hf
    exact .of_signed_term h

/-! ### Two runs -/

/-- The second position is the first one, or it is one further and behind a sign. -/
def Tape.SameOrBehindSign (tape : Tape) (p q : Nat) : Prop :=
  q = p ∨ (q = p + 1 ∧ (tape.look p).isSign = true)

/-- A lone sign that was looked at lies on the tape. -/
theorem Tape.EndsOnce.hasLoneSign {tape : Tape} (hend : tape.EndsOnce) {i : Nat}
    (h : LoneSign tape.look i) : tape.HasLoneSign := by
  refine ⟨i, Nat.lt_of_not_le fun hle ↦ ?_, h⟩
  -- otherwise the sign would be the end of the input
  have hkind : (tape.look (i + 1)).kind = .endOfInput := hend.ends.kind_look (by omega)
  have hsign := h.2.1
  simp [Token.isSign, TokenTest.accepts, hkind] at hsign

/-- Where one run fails and the other fails in the same way there or behind the next sign, the
diagnostics have the same message and the same line. -/
theorem Runs.diagnostics_agree {setup setup' : Setup} {m : Matcher} {s t t' : State}
    {d d' : Diagnostic} (h : Runs setup m s (.failed d) t) (h' : Runs setup' m s (.failed d') t')
    (htape : setup'.tape = setup.tape)
    (htrack : setup'.options.trackLines = setup.options.trackLines)
    (hc : d'.complaint = d.complaint)
    (hpos : setup.tape.SameOrBehindSign t.cursor.position t'.cursor.position) :
    d'.message = d.message ∧ d'.line = d.line := by
  have hline : d.line = t.cursor.line := by rw [h.diagnostic_eq]
  have hline' : d'.line = t'.cursor.line := by rw [h'.diagnostic_eq]
  have hbehind (tokens : List Token) :
      setup'.lineBehind s.cursor.line tokens = setup.lineBehind s.cursor.line tokens := by
    simp only [Setup.lineBehind, htrack]
  refine ⟨congrArg Complaint.message hc, ?_⟩
  rw [hline, hline', h.line_eq, h'.line_eq, hbehind, htape]
  rcases hpos with hq | ⟨hq, hs⟩
  · rw [hq]
  · rw [hq, ← stretch_append _ h.position_le (Nat.le_succ _), Setup.lineBehind_append,
      stretch_succ, Setup.lineBehind_sign hs]

/-- The run of a nonterminal without restored signs, in terms of how the nonterminal reads then. -/
private theorem Rule.run_of_unrestored {setup : Setup} (hend : setup.tape.EndsOnce)
    (hdrop : setup.options.restoreSign = false) {rule : Rule} {s : State}
    (h : Unrestored setup.tape.look (.rule rule) s.cursor.position v q) :
    let run := rule.run setup s
    (run.1.verdict? = some v ∧ (v = .matched → run.2.cursor.position = q) ∧
        setup.tape.SameOrBehindSign q run.2.cursor.position) ∨
      (∃ c, v = .failed c) ∧ setup.tape.HasLoneSign := by
  cases h with
  | same hr =>
    rw [← hdrop] at hr
    obtain ⟨hv, hp⟩ := run_of_reads hend.ends hr
    exact .inl ⟨hv, fun _ ↦ hp, .inl hp⟩
  | further hr hs hlax =>
    rw [← hdrop] at hr
    obtain ⟨hv, hp⟩ := run_of_reads hend.ends hr
    refine .inl ⟨hv, fun h ↦ ?_, .inr ⟨hp, hs⟩⟩
    cases (hlax h).1
  | lone hv h => exact .inr ⟨⟨_, hv⟩, hend.hasLoneSign h⟩

/-- On a tape that ends once, what matches where signs are restored matches the same tokens where
they are not. If no lone sign stands between parentheses on the tape, the two runs have the same
outcome with the same message and line. They stop at the same place if they match, and otherwise
there or with one sign between them. -/
theorem Rule.run_restoring {tape : Tape} (hend : tape.EndsOnce) (track : Bool) (rule : Rule)
    (s : State) :
    let restoring := rule.run ⟨tape, ⟨track, true⟩⟩ s
    let dropping := rule.run ⟨tape, ⟨track, false⟩⟩ s
    (restoring.1 = .matched → dropping.1 = .matched ∧
        dropping.2.cursor.position = restoring.2.cursor.position) ∧
      (¬ tape.HasLoneSign →
        (restoring.1 = .matched ∧ dropping.1 = .matched ∧
          dropping.2.cursor.position = restoring.2.cursor.position) ∨
        (restoring.1 = .unmatched ∧ dropping.1 = .unmatched ∧
          tape.SameOrBehindSign restoring.2.cursor.position dropping.2.cursor.position) ∨
        ∃ d d', restoring.1 = .failed d ∧ dropping.1 = .failed d' ∧ d'.message = d.message ∧
          d'.line = d.line ∧
          tape.SameOrBehindSign restoring.2.cursor.position dropping.2.cursor.position) := by
  intro restoring dropping
  let setup : Setup := ⟨tape, ⟨track, true⟩⟩
  let setup' : Setup := ⟨tape, ⟨track, false⟩⟩
  have hends : setup.tape.Ends := hend.ends
  have hends' : setup'.tape.Ends := hend.ends
  have hruns : Runs setup (.rule rule) s restoring.1 restoring.2 := rule.runs_run hends s
  have hruns' : Runs setup' (.rule rule) s dropping.1 dropping.2 := rule.runs_run hends' s
  obtain ⟨v, hv, hr⟩ := rule.reads_run hends s
  have hunrestored : Unrestored setup'.tape.look (.rule rule) s.cursor.position v
      restoring.2.cursor.position := hr.unrestored rfl rfl (by simp [Matcher.leadsLax])
  have hdropping := run_of_unrestored hend rfl hunrestored
  constructor
  · intro hmatched
    obtain rfl : v = .matched := by
      rw [show restoring.1 = .matched from hmatched] at hv
      exact (Option.some.inj hv).symm
    rcases hdropping with ⟨hv', hp, -⟩ | ⟨⟨c, hc⟩, -⟩
    · exact ⟨Ending.verdict?_eq_matched.mp hv', hp rfl⟩
    · cases hc
  · intro hlone
    obtain ⟨hv', hp, hplace⟩ := hdropping.resolve_right fun h ↦ hlone h.2
    cases v with
    | matched =>
      exact .inl ⟨Ending.verdict?_eq_matched.mp hv, Ending.verdict?_eq_matched.mp hv', hp rfl⟩
    | unmatched =>
      exact .inr (.inl
        ⟨Ending.verdict?_eq_unmatched.mp hv, Ending.verdict?_eq_unmatched.mp hv', hplace⟩)
    | failed c =>
      obtain ⟨d, hd, hc⟩ := Ending.verdict?_eq_failed.mp hv
      obtain ⟨d', hd', hc'⟩ := Ending.verdict?_eq_failed.mp hv'
      rw [hd'] at hruns'
      rw [show restoring.1 = .failed d from hd] at hruns
      obtain ⟨hmessage, hline⟩ :=
        hruns.diagnostics_agree hruns' rfl rfl (hc'.trans hc.symm) hplace
      exact .inr (.inr ⟨d, d', hd, hd', hmessage, hline, hplace⟩)

/-- A minus sign without a term, in front of the end of a `move` action: the action fails in front
of the sign where signs are restored and behind it where they are not, with the same message. -/
theorem Rule.lone_sign_before_and_behind :
    let tape := Tape.closing [⟨.keyword, "move", 1, 1⟩, ⟨.symbol, "-", 1, 6⟩,
      ⟨.endOfLine, "\n", 1, 7⟩] ⟨.endOfInput, "EOF", 2, 1⟩
    tape.EndsOnce ∧ ¬ tape.HasLoneSign ∧
      ∃ d d' s s', Rule.moveAction.run ⟨tape, ⟨true, true⟩⟩ (.start none) = (.failed d, s) ∧
        Rule.moveAction.run ⟨tape, ⟨true, false⟩⟩ (.start none) = (.failed d', s') ∧
        d'.message = d.message ∧ d'.line = d.line ∧ s.cursor.position = 1 ∧
        s'.cursor.position = 2 := by
  intro tape
  have hend : tape.EndsOnce := by decide +kernel
  have hlone : ¬ tape.HasLoneSign := by decide +kernel
  have hpos : (Rule.moveAction.run ⟨tape, ⟨true, true⟩⟩ (.start none)).2.cursor.position = 1 ∧
      (Rule.moveAction.run ⟨tape, ⟨true, false⟩⟩ (.start none)).2.cursor.position = 2 := by
    decide +kernel
  rcases (run_restoring hend true .moveAction (.start none)).2 hlone with
    ⟨-, -, hp⟩ | ⟨hun, -⟩ | ⟨d, d', hd, hd', hmessage, hline, -⟩
  · omega
  · exact absurd hun (by decide +kernel)
  · exact ⟨hend, hlone, d, d', _, _, Prod.ext hd rfl, Prod.ext hd' rfl, hmessage, hline, hpos⟩

end Bugs
