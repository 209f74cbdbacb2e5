import Bugs.Proofs.Run

/-!
# What a run reads

The line counter, the slot of the last fetch and the trace log never decide how a matcher goes
on. `Reads look restore m p v q` is what is left of a finished run without them: on the stream
`look` of tokens, and with signs restored or not, the matcher `m` reads from the position `p`
with the verdict `v` and leaves the position `q`. Every finished run that ends with a verdict
reads in this sense (`Runs.reads`), and the verdict and the last position are determined by the
stream and the first position (`Reads.deterministic`). Facts about what is accepted, and how far
a run looks ahead, are therefore stated and proved for `Reads`.

## Main definitions

* `Verdict`: the endings of a run that are answers.
* `Reads`: the runs of a matcher as reading from one position to another.
* `Ending.SameAnswer`: two runs come to the same answer.

## Main results

* `Runs.reads`: a finished run with a verdict reads.
* `Reads.le`, `Reads.deterministic`.
-/

namespace Bugs

/-- The answer of a matcher. -/
inductive Verdict where
  | matched
  | unmatched
  /-- A committed construct lacks a part. -/
  | failed (complaint : Complaint)
deriving Repr, DecidableEq

/-- The answer that an ending gives, unless the run was cut short. -/
def Ending.verdict? : Ending → Option Verdict
  | matched => some .matched
  | unmatched => some .unmatched
  | failed diagnostic => some (.failed diagnostic.complaint)
  | offTape | nothingFetched | exhausted => none

/-- What a matcher reads of a stream, from a position with a verdict to a position. -/
inductive Reads (look : Nat → Token) (restore : Bool) : Matcher → Nat → Verdict → Nat → Prop
  | accept {test : TokenTest} {p : Nat} (h : test.accepts (look p) = true) :
      Reads look restore (.token test) p .matched (p + 1)
  | refuse {test : TokenTest} {p : Nat} (h : test.accepts (look p) = false) :
      Reads look restore (.token test) p .unmatched p
  | keyword {word : Option String} {p : Nat}
      (h : TokenTest.accepts ⟨.keyword, word⟩ (look p) = true) :
      Reads look restore (.keyword word) p .matched (p + 1)
  | noKeyword {word : Option String} {p : Nat}
      (h : TokenTest.accepts ⟨.keyword, word⟩ (look p) = false) :
      Reads look restore (.keyword word) p .unmatched p
  | announce {construct : String} {p : Nat} :
      Reads look restore (.announce construct) p .matched p
  | rule {name : Rule} {p q : Nat} {v : Verdict} (h : Reads look restore name.matcher p v q) :
      Reads look restore (.rule name) p v q
  | bothStop {a b : Matcher} {p q : Nat} {v : Verdict} (h : Reads look restore a p v q)
      (hv : v ≠ .matched) : Reads look restore (.both a b) p v q
  | both {a b : Matcher} {p q r : Nat} {v : Verdict} (ha : Reads look restore a p .matched q)
      (hb : Reads look restore b q v r) : Reads look restore (.both a b) p v r
  | eitherStop {a b : Matcher} {p q : Nat} {v : Verdict} (h : Reads look restore a p v q)
      (hv : v ≠ .unmatched) : Reads look restore (.either a b) p v q
  | either {a b : Matcher} {p q r : Nat} {v : Verdict} (ha : Reads look restore a p .unmatched q)
      (hb : Reads look restore b q v r) : Reads look restore (.either a b) p v r
  | mustStop {m : Matcher} {c : Complaint} {p q : Nat} {v : Verdict}
      (h : Reads look restore m p v q) (hv : v ≠ .unmatched) :
      Reads look restore (.must m c) p v q
  | must {m : Matcher} {c : Complaint} {p q : Nat} (h : Reads look restore m p .unmatched q) :
      Reads look restore (.must m c) p (.failed c) q
  | optionalStop {m : Matcher} {p q : Nat} {v : Verdict} (h : Reads look restore m p v q)
      (hv : v ≠ .unmatched) : Reads look restore (.optional m) p v q
  | optional {m : Matcher} {p q : Nat} (h : Reads look restore m p .unmatched q) :
      Reads look restore (.optional m) p .matched q
  | manyStop {m : Matcher} {p q : Nat} {c : Complaint} (h : Reads look restore m p (.failed c) q) :
      Reads look restore (.many m) p (.failed c) q
  | manyDone {m : Matcher} {p q : Nat} (h : Reads look restore m p .unmatched q) :
      Reads look restore (.many m) p .matched q
  | many {m : Matcher} {p q r : Nat} {v : Verdict} (h : Reads look restore m p .matched q)
      (hr : Reads look restore (.many m) q v r) : Reads look restore (.many m) p v r
  | rewindStop {m : Matcher} {p q : Nat} {v : Verdict} (h : Reads look restore m p v q)
      (hv : v ≠ .unmatched) : Reads look restore (.rewind m) p v q
  | rewind {m : Matcher} {p q : Nat} (h : Reads look restore m p .unmatched q) :
      Reads look restore (.rewind m) p .unmatched p
  | rewindSignStop {m : Matcher} {p q : Nat} {v : Verdict} (h : Reads look restore m p v q)
      (hv : v ≠ .unmatched) : Reads look restore (.rewindSign m) p v q
  | rewindSign {m : Matcher} {p q : Nat} (h : Reads look restore m p .unmatched q) :
      Reads look restore (.rewindSign m) p .unmatched (if restore then p else q)

/-! ### From finished runs -/

theorem Ending.verdict?_eq_matched {e : Ending} :
    e.verdict? = some .matched ↔ e = .matched := by
  cases e <;> simp [verdict?]

theorem Ending.verdict?_eq_unmatched {e : Ending} :
    e.verdict? = some .unmatched ↔ e = .unmatched := by
  cases e <;> simp [verdict?]

theorem Ending.verdict?_eq_failed {e : Ending} {c : Complaint} :
    e.verdict? = some (.failed c) ↔ ∃ d, e = .failed d ∧ d.complaint = c := by
  cases e <;> simp [verdict?]

/-- Two endings are the same answer. Two failures are if their diagnostics are related. -/
inductive Ending.SameAnswer (related : Diagnostic → Diagnostic → Prop) : Ending → Ending → Prop
  | matched : SameAnswer related .matched .matched
  | unmatched : SameAnswer related .unmatched .unmatched
  | failed {d d' : Diagnostic} (h : related d d') : SameAnswer related (.failed d) (.failed d')

theorem Ending.SameAnswer.exists_failed {related : Diagnostic → Diagnostic → Prop} {d : Diagnostic}
    {e' : Ending} (h : SameAnswer related (.failed d) e') :
    ∃ d', e' = .failed d' ∧ related d d' := by
  cases h with
  | failed h => exact ⟨_, rfl, h⟩

/-- Two endings with one verdict are the same answer, if this relates their diagnostics. -/
theorem Ending.sameAnswer_of_verdict? {related : Diagnostic → Diagnostic → Prop} {e e' : Ending}
    {v : Verdict} (h : e.verdict? = some v) (h' : e'.verdict? = some v)
    (hrelated : ∀ d d', e = .failed d → e' = .failed d' → d'.complaint = d.complaint →
      related d d') : SameAnswer related e e' := by
  cases v with
  | matched =>
    rw [verdict?_eq_matched.mp h, verdict?_eq_matched.mp h']
    exact .matched
  | unmatched =>
    rw [verdict?_eq_unmatched.mp h, verdict?_eq_unmatched.mp h']
    exact .unmatched
  | failed c =>
    obtain ⟨d, rfl, hc⟩ := verdict?_eq_failed.mp h
    obtain ⟨d', rfl, hc'⟩ := verdict?_eq_failed.mp h'
    exact .failed (hrelated d d' rfl rfl (hc'.trans hc.symm))

private theorem verdict?_reportKeyword {setup : Setup} {s : State} {v : Verdict}
    (h : (reportKeyword setup s).1.verdict? = some v) : v = .matched := by
  unfold reportKeyword at h
  split at h
  · exact (Option.some.inj h).symm
  · split at h
    · exact (Option.some.inj h).symm
    · cases h

/-- A finished run that ends with a verdict reads from its first position to its last one. -/
theorem Runs.reads {setup : Setup} {m : Matcher} {s s' : State} {e : Ending} {v : Verdict}
    (h : Runs setup m s e s') (hv : e.verdict? = some v) :
    Reads setup.tape.look setup.options.restoreSign m s.cursor.position v s'.cursor.position := by
  induction h generalizing v with
  | accept h => cases hv; exact .accept h
  | refuse h => cases hv; exact .refuse h
  | keyword h =>
    rw [verdict?_reportKeyword hv, cursor_reportKeyword]
    exact .keyword h
  | noKeyword h => cases hv; exact .noKeyword h
  | announce => cases hv; exact .announce
  | rule _ ih => exact .rule (ih hv)
  | bothStop _ he ih =>
    exact .bothStop (ih hv) fun h ↦ he (Ending.verdict?_eq_matched.mp (h ▸ hv))
  | both _ _ iha ihb => exact .both (iha rfl) (ihb hv)
  | eitherStop _ he ih =>
    exact .eitherStop (ih hv) fun h ↦ he (Ending.verdict?_eq_unmatched.mp (h ▸ hv))
  | either _ _ iha ihb => exact .either (iha rfl) (ihb hv)
  | mustStop _ he ih =>
    exact .mustStop (ih hv) fun h ↦ he (Ending.verdict?_eq_unmatched.mp (h ▸ hv))
  | must _ ih => cases hv; exact .must (ih rfl)
  | optionalStop _ he ih =>
    exact .optionalStop (ih hv) fun h ↦ he (Ending.verdict?_eq_unmatched.mp (h ▸ hv))
  | optional _ ih => cases hv; exact .optional (ih rfl)
  | manyStop _ hm hu ih =>
    cases v with
    | matched => exact absurd (Ending.verdict?_eq_matched.mp hv) hm
    | unmatched => exact absurd (Ending.verdict?_eq_unmatched.mp hv) hu
    | failed c => exact .manyStop (ih hv)
  | manyDone _ ih => cases hv; exact .manyDone (ih rfl)
  | many _ _ ih ihr => exact .many (ih rfl) (ihr hv)
  | rewindStop _ he ih =>
    exact .rewindStop (ih hv) fun h ↦ he (Ending.verdict?_eq_unmatched.mp (h ▸ hv))
  | rewind _ ih => cases hv; exact .rewind (ih rfl)
  | rewindSignStop _ he ih =>
    exact .rewindSignStop (ih hv) fun h ↦ he (Ending.verdict?_eq_unmatched.mp (h ▸ hv))
  | rewindSign _ ih =>
    cases hv
    have hr := Reads.rewindSign (ih rfl)
    split at hr <;> simp_all

namespace Reads

variable {look : Nat → Token} {restore : Bool} {m a b : Matcher} {p q r : Nat} {v : Verdict}

/-- Reading goes forward. -/
theorem le (h : Reads look restore m p v q) : p ≤ q := by
  induction h with
  | both _ _ iha ihb | either _ _ iha ihb | many _ _ iha ihb => exact Nat.le_trans iha ihb
  | rewindSign _ ih =>
    split
    · exact Nat.le_refl _
    · exact ih
  | accept | keyword => exact Nat.le_succ _
  | refuse | noKeyword | announce | rewind => exact Nat.le_refl _
  | rule _ ih | bothStop _ _ ih | eitherStop _ _ ih | mustStop _ _ ih | must _ ih
  | optionalStop _ _ ih | optional _ ih | manyStop _ ih | manyDone _ ih | rewindStop _ _ ih
  | rewindSignStop _ _ ih => exact ih

/-- The verdict and the last position are determined by the stream and the first position. -/
theorem deterministic {v' : Verdict} {q' : Nat} (h : Reads look restore m p v q)
    (h' : Reads look restore m p v' q') : v = v' ∧ q = q' := by
  induction h generalizing v' q' with
  | accept h | refuse h | keyword h | noKeyword h => cases h' <;> simp_all
  | announce => cases h'; exact ⟨rfl, rfl⟩
  | rule _ ih =>
    cases h' with
    | rule h' => exact ih h'
  | bothStop _ hv ih =>
    cases h' with
    | bothStop h' _ => exact ih h'
    | both ha _ => exact absurd (ih ha).1 hv
  | both _ _ iha ihb =>
    cases h' with
    | bothStop h' hv' => exact absurd (iha h').1.symm hv'
    | both ha hb =>
      obtain ⟨-, rfl⟩ := iha ha
      exact ihb hb
  | eitherStop _ hv ih =>
    cases h' with
    | eitherStop h' _ => exact ih h'
    | either ha _ => exact absurd (ih ha).1 hv
  | either _ _ iha ihb =>
    cases h' with
    | eitherStop h' hv' => exact absurd (iha h').1.symm hv'
    | either ha hb =>
      obtain ⟨-, rfl⟩ := iha ha
      exact ihb hb
  | mustStop _ hv ih =>
    cases h' with
    | mustStop h' _ => exact ih h'
    | must h' => exact absurd (ih h').1 hv
  | must _ ih =>
    cases h' with
    | mustStop h' hv' => exact absurd (ih h').1.symm hv'
    | must h' => exact ⟨rfl, (ih h').2⟩
  | optionalStop _ hv ih =>
    cases h' with
    | optionalStop h' _ => exact ih h'
    | optional h' => exact absurd (ih h').1 hv
  | optional _ ih =>
    cases h' with
    | optionalStop h' hv' => exact absurd (ih h').1.symm hv'
    | optional h' => exact ⟨rfl, (ih h').2⟩
  | manyStop _ ih =>
    cases h' with
    | manyStop h' => exact ih h'
    | manyDone h' => cases (ih h').1
    | many h' _ => cases (ih h').1
  | manyDone _ ih =>
    cases h' with
    | manyStop h' => cases (ih h').1
    | manyDone h' => exact ⟨rfl, (ih h').2⟩
    | many h' _ => cases (ih h').1
  | many _ _ ih ihr =>
    cases h' with
    | manyStop h' => cases (ih h').1
    | manyDone h' => cases (ih h').1
    | many h' hr =>
      obtain ⟨-, rfl⟩ := ih h'
      exact ihr hr
  | rewindStop _ hv ih =>
    cases h' with
    | rewindStop h' _ => exact ih h'
    | rewind h' => exact absurd (ih h').1 hv
  | rewind _ ih =>
    cases h' with
    | rewindStop h' hv' => exact absurd (ih h').1.symm hv'
    | rewind _ => exact ⟨rfl, rfl⟩
  | rewindSignStop _ hv ih =>
    cases h' with
    | rewindSignStop h' _ => exact ih h'
    | rewindSign h' => exact absurd (ih h').1 hv
  | rewindSign _ ih =>
    cases h' with
    | rewindSignStop h' hv' => exact absurd (ih h').1.symm hv'
    | rewindSign h' => exact ⟨rfl, by rw [(ih h').2]⟩

end Reads

end Bugs
