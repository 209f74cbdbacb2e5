import Bugs.Proofs.Grammar.Soundness

/-!
# Every run comes to an answer

On a tape that ends, a nonterminal run from any state matches, does not match or fails; its
budget is never used up, its trace never asks for a token past the end, and it takes no fetch back
that was not there. Sixteen calls for each token that lies ahead are enough, because what a
regular matcher reads before it goes on lies before the end of the tape
(`Reads.lt_size_of_matched`), and because between two tokens the rank of the nonterminals drops
with every call. So the answer of a run is the verdict of what it reads (`Rule.reads_run`), and
what holds of all readings holds of all runs.

## Main definitions

* `Setup.room`: the part of the budget that the tokens ahead call for.
* `Affords`: what a matcher needs of the budget at a state.

## Main results

* `Runs.exists_verdict`, `Matcher.run_ne_exhausted`, `Matcher.reads_run`, `Matcher.run_of_reads`,
  and the same for nonterminals.
-/

namespace Bugs

variable {setup : Setup}

/-! ### Progress -/

theorem Reads.lt_size_of_matched {tape : Tape} {restore : Bool} {m : Matcher} {p q : Nat}
    (hend : tape.Ends) (h : Reads tape.look restore m p .matched q) (hm : m.regular = true)
    (hp : m.plain = true) : (q = p ∧ m.nullable = true) ∨ (p < q ∧ q < tape.size) := by
  have hmem := h.mem_language hm rfl
  rcases Nat.eq_or_lt_of_le h.le with rfl | hlt
  · rw [stretch_self] at hmem
    exact .inl ⟨rfl, Matcher.nullable_of_nil_mem (Rule.nil_notMem_language _) hmem⟩
  · refine .inr ⟨hlt, Nat.lt_of_not_le fun hle ↦ ?_⟩
    refine Matcher.kind_ne_of_mem (fun name hn w hw ↦ Rule.kind_ne_of_mem hn hw) hp hmem _
      (mem_stretch.mpr ⟨q - 1, by omega, by omega, rfl⟩) ?_
    exact hend.kind_look (by omega)

/-- On a tape that ends, the trace knows the text of every keyword that was read. -/
theorem reportKeyword_eq (hend : setup.tape.Ends) {s : State} {word : Option String}
    (h : TokenTest.accepts ⟨.keyword, word⟩ (s.cursor.peek setup.tape) = true) :
    reportKeyword setup (s.advanced setup) = (.matched, (s.advanced setup).record .debug
      ("keyword " ++ (s.cursor.peek setup.tape).text) []) := by
  have hkind : (setup.tape.look s.cursor.position).kind = .keyword := by
    simp only [TokenTest.accepts, Bool.and_eq_true, decide_eq_true_eq] at h
    exact h.1
  have hlt : s.cursor.position < setup.tape.size := by
    refine Nat.lt_of_not_le fun hle ↦ ?_
    rw [hend.kind_look (Nat.le_succ_of_le hle)] at hkind
    cases hkind
  have hread : setup.tape.tokens[(s.advanced setup).cursor.position - 1]? =
      some (s.cursor.peek setup.tape) := by
    rw [State.position_advanced, Nat.add_sub_cancel, ← Array.getElem?_toList]
    exact Tape.getElem?_eq_look hlt
  unfold reportKeyword
  split
  · rename_i hlog
    simp only [State.record, hlog, Option.map_none]
    rw [← hlog]
  · rw [hread]

/-- Every finished run on a tape that ends is an answer: it has asked for no token past the end and
has taken no fetch back that was not there. -/
theorem Runs.exists_verdict (hend : setup.tape.Ends) {m : Matcher} {s s' : State} {e : Ending}
    (h : Runs setup m s e s') : ∃ v, e.verdict? = some v := by
  induction h with
  | accept | refuse | noKeyword | announce | optional | manyDone | rewind | rewindSign | must =>
    exact ⟨_, rfl⟩
  | keyword h =>
    rw [reportKeyword_eq hend h]
    exact ⟨_, rfl⟩
  | rule _ ih | bothStop _ _ ih | both _ _ _ ih | eitherStop _ _ ih | either _ _ _ ih
  | mustStop _ _ ih | optionalStop _ _ ih | manyStop _ _ _ ih | many _ _ _ ih
  | rewindStop _ _ ih | rewindSignStop _ _ ih => exact ih

/-! ### The budget -/

/-- The part of the budget that the tokens ahead of a state call for. -/
def Setup.room (setup : Setup) (s : State) : Nat :=
  16 * (setup.tape.size - s.cursor.position)

/-- The budget is enough for the tokens ahead of a state and for the nonterminals that a matcher
calls first there. -/
structure Affords (setup : Setup) (budget : Nat) (m : Matcher) (s : State) : Prop where
  ahead : setup.room s + 1 ≤ budget
  lead : ∀ rule ∈ m.lead, setup.room s + rule.rank + 2 ≤ budget

namespace Affords

variable {budget : Nat} {m : Matcher} {s s' : State}

theorem mono {m' : Matcher} (h : Affords setup budget m s) (hle : ∀ rule ∈ m'.lead, rule ∈ m.lead) :
    Affords setup budget m' s :=
  ⟨h.ahead, fun rule hr ↦ h.lead rule (hle rule hr)⟩

theorem of_lt (h : Affords setup budget m s) (m' : Matcher)
    (hlt : s.cursor.position < s'.cursor.position) (hsize : s'.cursor.position < setup.tape.size) :
    Affords setup budget m' s' := by
  have hahead := h.ahead
  have hroom : setup.room s' + 16 ≤ setup.room s := by
    simp only [Setup.room]
    omega
  refine ⟨by omega, fun rule _ ↦ ?_⟩
  have hrank := rule.rank_le
  omega

theorem of_eq (h : Affords setup budget m s) (heq : s'.cursor.position = s.cursor.position) :
    Affords setup budget m s' := by
  have hroom : setup.room s' = setup.room s := by rw [Setup.room, heq, Setup.room]
  exact ⟨hroom ▸ h.ahead, hroom ▸ h.lead⟩

end Affords

/-- A loop ends within its laps if every lap that goes on comes closer to the end of the tape. -/
theorem repeatRun_ne_exhausted {body : Run} {P : State → Prop}
    (hbody : ∀ s, P s → (body s).1 ≠ .exhausted)
    (hnext : ∀ s s', P s → body s = (.matched, s') → P s' ∧ setup.room s' < setup.room s)
    {laps : Nat} {s : State} (hs : P s) (hlaps : setup.room s < laps) :
    (repeatRun body laps s).1 ≠ .exhausted := by
  induction laps generalizing s with
  | zero => exact absurd hlaps (Nat.not_lt_zero _)
  | succ laps ih =>
    rw [repeatRun]
    split
    · rename_i next hb
      obtain ⟨hp, hlt⟩ := hnext _ _ hs hb
      exact ih hp (by omega)
    · simp
    · exact hbody s hs

section Budget

variable {call : Rule → Run} {budget : Nat}

/-- A matcher does not use up a budget that is enough for it, if no nonterminal does. -/
theorem Matcher.runWith_ne_exhausted (hend : setup.tape.Ends)
    (hfin : ∀ rule, Finishes setup (.rule rule) (call rule))
    (hcall : ∀ rule s, setup.room s + rule.rank + 2 ≤ budget → (call rule s).1 ≠ .exhausted)
    {m : Matcher} (hm : m.regular = true) {s : State} (hs : Affords setup budget m s) :
    (m.runWith setup call budget s).1 ≠ .exhausted := by
  have hreads (m : Matcher) {s s' : State} {e : Ending} {v : Verdict}
      (h : m.runWith setup call budget s = (e, s')) (hv : e.verdict? = some v) :
      Reads setup.tape.look setup.options.restoreSign m s.cursor.position v s'.cursor.position :=
    (Finishes.runWith hfin budget m _ _ _ h (by rintro rfl; cases hv)).reads hv
  induction m generalizing s with
  | token test =>
    rw [runWith]
    cases ht : test.accepts (s.cursor.peek setup.tape) with
    | true => rw [readToken_of_accepts ht]; simp
    | false => rw [readToken_of_refuses ht]; simp
  | keyword word =>
    rw [runWith]
    cases ht : TokenTest.accepts ⟨.keyword, word⟩ (s.cursor.peek setup.tape) with
    | true =>
      simp [readToken_of_accepts ht, reportKeyword_eq hend ht]
    | false => rw [readToken_of_refuses ht]; simp
  | announce => simp [runWith]
  | rule name => exact hcall name s (hs.lead name (by simp [lead]))
  | both a b iha ihb =>
    simp only [regular, Bool.and_eq_true] at hm
    have ha := iha hm.1.1 (hs.mono fun rule hr ↦ by simp [lead, hr])
    rw [runWith]
    split
    · rename_i s₁ h₁
      refine ihb hm.1.2 ?_
      rcases (hreads a h₁ rfl).lt_size_of_matched hend hm.1.1 hm.2 with ⟨heq, hn⟩ | ⟨hlt, hsize⟩
      · exact (hs.of_eq heq).mono fun rule hr ↦ by simp [lead, hr, hn]
      · exact hs.of_lt b hlt hsize
    · exact ha
  | either a b iha ihb =>
    simp only [regular, Bool.and_eq_true, Bool.not_eq_true'] at hm
    have ha := iha hm.1.1.1 (hs.mono fun rule hr ↦ by simp [lead, hr])
    rw [runWith]
    split
    · rename_i s₁ h₁
      refine ihb hm.1.1.2 ?_
      have heq := (hreads a h₁ rfl).stays hm.1.2 hm.2
      exact (hs.of_eq heq).mono fun rule hr ↦ by simp [lead, hr]
    · exact ha
  | must m c ih =>
    simp only [regular, Bool.and_eq_true] at hm
    have hrun := ih hm.1 (hs.mono fun rule hr ↦ hr)
    rw [runWith]
    split
    · simp [complain]
    · exact hrun
  | optional m ih =>
    simp only [regular, Bool.and_eq_true] at hm
    have hrun := ih hm.1 (hs.mono fun rule hr ↦ hr)
    rw [runWith]
    split
    · simp
    · exact hrun
  | many m ih =>
    simp only [regular, Bool.and_eq_true, Bool.not_eq_true'] at hm
    rw [runWith]
    refine repeatRun_ne_exhausted (P := Affords setup budget m)
      (fun s hs ↦ ih hm.1.1.1.1 hs) (fun s s' hs h ↦ ?_) (hs.mono fun rule hr ↦ hr) hs.ahead
    rcases (hreads m h rfl).lt_size_of_matched hend hm.1.1.1.1 hm.2 with ⟨-, hn⟩ | ⟨hlt, hsize⟩
    · exact absurd hn (by simp [hm.1.2])
    · refine ⟨hs.of_lt m hlt hsize, ?_⟩
      simp only [Setup.room]
      omega
  | rewind m ih =>
    have hrun := ih hm (hs.mono fun rule hr ↦ hr)
    rw [runWith]
    split
    · simp
    · exact hrun
  | rewindSign m ih =>
    have hrun := ih hm (hs.mono fun rule hr ↦ hr)
    rw [runWith]
    split
    · simp
    · exact hrun

end Budget

/-- A nonterminal does not use up a budget that covers the tokens ahead and its rank. -/
theorem Rule.runWith_ne_exhausted (hend : setup.tape.Ends) {budget : Nat} (rule : Rule)
    {s : State} (h : setup.room s + rule.rank + 2 ≤ budget) :
    (rule.runWith Rule.matcher setup budget s).1 ≠ .exhausted := by
  induction budget generalizing rule s with
  | zero => exact absurd h (Nat.not_succ_le_zero _)
  | succ budget ih =>
    refine Matcher.runWith_ne_exhausted hend (Finishes.ruleRunWith budget)
      (fun other s hs ↦ ih other hs) rule.regular_matcher ⟨by omega, fun other ho ↦ ?_⟩
    have hrank := rank_lt_of_mem_lead ho
    omega

/-- On a tape that ends, no run of a regular matcher uses up its budget. -/
theorem Matcher.run_ne_exhausted (hend : setup.tape.Ends) {m : Matcher} (hm : m.regular = true)
    (s : State) : (m.run setup s).1 ≠ .exhausted := by
  refine runWith_ne_exhausted hend (Finishes.ruleRunWith _)
    (fun rule _ h ↦ rule.runWith_ne_exhausted hend h) hm ⟨?_, fun rule _ ↦ ?_⟩
  · simp only [Setup.room, State.budget]
    omega
  · have hrank := rule.rank_le
    simp only [Setup.room, State.budget]
    omega

theorem Matcher.runs_run (hend : setup.tape.Ends) {m : Matcher} (hm : m.regular = true)
    (s : State) : Runs setup m s (m.run setup s).1 (m.run setup s).2 :=
  Finishes.runWith (Finishes.ruleRunWith _) _ m _ _ _ rfl (run_ne_exhausted hend hm s)

/-- On a tape that ends, every run of a regular matcher has a verdict, and it reads with it. -/
theorem Matcher.reads_run (hend : setup.tape.Ends) {m : Matcher} (hm : m.regular = true)
    (s : State) :
    ∃ v, (m.run setup s).1.verdict? = some v ∧
      Reads setup.tape.look setup.options.restoreSign m s.cursor.position v
        (m.run setup s).2.cursor.position := by
  have h := runs_run hend hm s
  obtain ⟨v, hv⟩ := h.exists_verdict hend
  exact ⟨v, hv, h.reads hv⟩

/-- On a tape that ends, a regular matcher that reads in some way runs that way. -/
theorem Matcher.run_of_reads (hend : setup.tape.Ends) {m : Matcher} (hm : m.regular = true)
    {s : State} {v : Verdict} {q : Nat}
    (h : Reads setup.tape.look setup.options.restoreSign m s.cursor.position v q) :
    (m.run setup s).1.verdict? = some v ∧ (m.run setup s).2.cursor.position = q := by
  obtain ⟨v', hv, hr⟩ := reads_run hend hm s
  obtain ⟨rfl, rfl⟩ := hr.deterministic h
  exact ⟨hv, rfl⟩

theorem Matcher.run_rule (name : Rule) (s : State) :
    (Matcher.rule name).run setup s = name.run setup s := by
  simp only [run, runWith, Rule.run]

/-- On a tape that ends, every run of a nonterminal is finished. -/
theorem Rule.runs_run (hend : setup.tape.Ends) (rule : Rule) (s : State) :
    Runs setup (.rule rule) s (rule.run setup s).1 (rule.run setup s).2 := by
  rw [← Matcher.run_rule]
  exact Matcher.runs_run hend rfl s

theorem Rule.runs_of_run (hend : setup.tape.Ends) {rule : Rule} {s s' : State} {e : Ending}
    (h : rule.run setup s = (e, s')) : Runs setup (.rule rule) s e s' := by
  have hr := rule.runs_run hend s
  rwa [h] at hr

/-- On a tape that ends, every run of a nonterminal has a verdict, and it reads with it. -/
theorem Rule.reads_run (hend : setup.tape.Ends) (rule : Rule) (s : State) :
    ∃ v, (rule.run setup s).1.verdict? = some v ∧
      Reads setup.tape.look setup.options.restoreSign (.rule rule) s.cursor.position v
        (rule.run setup s).2.cursor.position := by
  rw [← Matcher.run_rule]
  exact Matcher.reads_run hend rfl s

/-- On a tape that ends, every nonterminal reads from every position. -/
theorem Rule.exists_reads {tape : Tape} (hend : tape.Ends) (restore : Bool) (rule : Rule)
    (p : Nat) : ∃ v q, Reads tape.look restore (.rule rule) p v q := by
  let setup : Setup := ⟨tape, ⟨false, restore⟩⟩
  have hends : setup.tape.Ends := hend
  obtain ⟨v, -, h⟩ := rule.reads_run hends ⟨⟨p, 1, none⟩, none⟩
  exact ⟨v, _, h⟩

theorem Rule.reads_of_run (hend : setup.tape.Ends) {rule : Rule} {s s' : State} {e : Ending}
    {v : Verdict} (h : rule.run setup s = (e, s')) (hv : e.verdict? = some v) :
    Reads setup.tape.look setup.options.restoreSign (.rule rule) s.cursor.position v
      s'.cursor.position :=
  (runs_of_run hend h).reads hv

/-- On a tape that ends, a nonterminal that reads in some way runs that way. -/
theorem Rule.run_of_reads (hend : setup.tape.Ends) {rule : Rule} {s : State} {v : Verdict} {q : Nat}
    (h : Reads setup.tape.look setup.options.restoreSign (.rule rule) s.cursor.position v q) :
    (rule.run setup s).1.verdict? = some v ∧ (rule.run setup s).2.cursor.position = q := by
  rw [← Matcher.run_rule]
  exact Matcher.run_of_reads hend rfl h

end Bugs
