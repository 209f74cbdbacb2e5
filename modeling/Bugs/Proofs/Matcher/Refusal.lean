import Bugs.Proofs.Matcher.Shape
import Bugs.Proofs.Reading

/-!
# Matchers that do not match

A clean matcher at a token where it cannot go on does not match, or matches without reading
(`Matcher.reads_of_not_starts`). In the other direction, a prompt matcher that does not match
stands at such a token (`Reads.not_starts_of_prompt`). The matchers that are not prompt either
return to their beginning or drop one sign, and then the token behind the sign begins no term
(`Reads.stays_or_drops`). Run again, a nonterminal that did not match does not match and moves
no further (`Rule.reads_again`).
-/

namespace Bugs

variable {look : Nat → Token} {restore : Bool} {p q : Nat}

/-! ### What the first token refuses -/

/-- A matcher that is sure of itself matches or fails. -/
theorem Reads.ne_unmatched_of_sure {m : Matcher} {v : Verdict} (h : Reads look restore m p v q)
    (hs : m.sure = true) : v ≠ .unmatched := by
  induction h with
  | refuse | noKeyword | rule => cases hs
  | accept | keyword | announce | must | optional | manyStop | manyDone => simp
  | bothStop _ _ ih =>
    rw [Matcher.sure, Bool.and_eq_true] at hs
    exact ih hs.1
  | both _ _ _ ih =>
    rw [Matcher.sure, Bool.and_eq_true] at hs
    exact ih hs.2
  | either _ _ _ ih => exact ih hs
  | many _ _ _ ih => exact ih rfl
  | eitherStop _ hv | mustStop _ hv | optionalStop _ hv | rewindStop _ hv
  | rewindSignStop _ hv => exact hv
  | rewind _ ih | rewindSign _ ih => exact absurd rfl (ih hs)

/-- A run of a matcher that is sure of itself ends in a match, in a failure or without an answer. -/
theorem Runs.ne_unmatched_of_sure {setup : Setup} {m : Matcher} {s s' : State} {e : Ending}
    (h : Runs setup m s e s') (hs : m.sure = true) : e ≠ .unmatched := by
  rintro rfl
  exact (h.reads (v := .unmatched) rfl).ne_unmatched_of_sure hs rfl

/-- A prompt matcher that does not match has read nothing and cannot go on at the next token. -/
theorem Reads.not_starts_of_prompt {m : Matcher} (h : Reads look restore m p .unmatched q)
    (hm : m.prompt = true) : q = p ∧ m.starts (look p) = false := by
  generalize hv : Verdict.unmatched = v at h
  induction h with
  | accept | keyword | announce | must | optional | manyStop | manyDone => cases hv
  | refuse h | noKeyword h => exact ⟨rfl, by simpa using h⟩
  | @rule name _ _ _ _ ih =>
    obtain ⟨hq, hs⟩ := ih (name.prompt_matcher hm) hv
    exact ⟨hq, by simpa using hs⟩
  | bothStop _ _ ih =>
    simp only [Matcher.prompt, Bool.and_eq_true, Bool.not_eq_true'] at hm
    obtain ⟨hq, hs⟩ := ih hm.1.1 hv
    exact ⟨hq, by simp [hs, hm.1.2]⟩
  | both _ hb =>
    simp only [Matcher.prompt, Bool.and_eq_true] at hm
    exact absurd hv.symm (hb.ne_unmatched_of_sure hm.2)
  | either _ _ iha ihb =>
    simp only [Matcher.prompt, Bool.and_eq_true] at hm
    obtain ⟨rfl, hs⟩ := iha hm.1 rfl
    obtain ⟨hq, hs'⟩ := ihb hm.2 hv
    exact ⟨hq, by simp [hs, hs']⟩
  | many _ hr => exact absurd hv.symm (hr.ne_unmatched_of_sure rfl)
  | eitherStop _ hne | mustStop _ hne | optionalStop _ hne => exact absurd hv.symm hne
  | rewindStop | rewind | rewindSignStop | rewindSign => cases hm

/-- At a token where it cannot go on, a clean matcher does not match, unless it may match
without reading. The nonterminals that it calls first are assumed to refuse the token. -/
private theorem Matcher.reads_of_refusing_lead {m : Matcher} (hc : m.clean = true)
    (hs : m.starts (look p) = false)
    (hl : ∀ rule ∈ m.lead, (Matcher.rule rule).starts (look p) = false →
      Reads look restore (.rule rule) p .unmatched p) :
    Reads look restore m p (if m.nullable then .matched else .unmatched) p := by
  induction m with
  | token test => exact .refuse (by simpa using hs)
  | keyword word => exact .noKeyword (by simpa using hs)
  | announce construct => exact .announce
  | rule name => exact hl name (by simp [lead]) hs
  | both a b iha ihb =>
    simp only [clean, Bool.and_eq_true, Bool.or_eq_true, Bool.not_eq_true'] at hc
    simp only [starts_both, Bool.or_eq_false_iff, Bool.and_eq_false_iff] at hs
    simp only [lead, List.mem_append] at hl
    have ha := iha hc.1 hs.1 fun rule hr ↦ hl rule (.inl hr)
    cases hn : a.nullable with
    | false =>
      rw [hn] at ha
      simpa [nullable, hn] using Reads.bothStop (b := b) ha (by simp)
    | true =>
      rw [hn] at ha
      have hb := ihb (hc.2.resolve_left (by simp [hn])) (hs.2.resolve_left (by simp [hn]))
        fun rule hr ↦ hl rule (.inr (by simpa [hn] using hr))
      simpa [nullable, hn] using Reads.both ha hb
  | either a b iha ihb =>
    simp only [clean, Bool.and_eq_true] at hc
    simp only [starts_either, Bool.or_eq_false_iff] at hs
    simp only [lead, List.mem_append] at hl
    have ha := iha hc.1 hs.1 fun rule hr ↦ hl rule (.inl hr)
    have hb := ihb hc.2 hs.2 fun rule hr ↦ hl rule (.inr hr)
    cases hn : a.nullable with
    | false =>
      rw [hn] at ha
      simpa [nullable, hn] using Reads.either ha hb
    | true =>
      rw [hn] at ha
      simpa [nullable, hn] using Reads.eitherStop (b := b) ha (by simp)
  | must m c ih => cases hc
  | optional m ih =>
    have hm := ih hc hs hl
    cases hn : m.nullable with
    | false =>
      rw [hn] at hm
      exact .optional hm
    | true =>
      rw [hn] at hm
      exact .optionalStop hm (by simp [nullable])
  | many m ih =>
    simp only [clean, Bool.and_eq_true, Bool.not_eq_true'] at hc
    have hm := ih hc.1 hs hl
    rw [hc.2] at hm
    exact .manyDone hm
  | rewind m ih =>
    have hm := ih hc hs hl
    rw [nullable]
    cases hn : m.nullable with
    | false =>
      rw [hn] at hm
      exact .rewind hm
    | true =>
      rw [hn] at hm
      exact .rewindStop hm (by simp)
  | rewindSign m ih =>
    have hm := ih hc hs hl
    rw [nullable]
    cases hn : m.nullable with
    | false =>
      rw [hn] at hm
      simpa using Reads.rewindSign hm
    | true =>
      rw [hn] at hm
      exact .rewindSignStop hm (by simp)

/-- A nonterminal does not match at a token where it cannot go on. -/
theorem Rule.reads_of_not_starts (rule : Rule)
    (hs : (Matcher.rule rule).starts (look p) = false) :
    Reads look restore (.rule rule) p .unmatched p := by
  have h := Matcher.reads_of_refusing_lead rule.clean_matcher
    (by rwa [rule.starts_matcher]) (fun other _ ho ↦ other.reads_of_not_starts ho)
  rw [rule.nullable_matcher] at h
  exact .rule h
termination_by rule.rank
decreasing_by exact rank_lt_of_mem_lead ‹_›

/-- At a token where it cannot go on, a clean matcher does not match, unless it may match
without reading. -/
theorem Matcher.reads_of_not_starts {m : Matcher} (hc : m.clean = true)
    (hs : m.starts (look p) = false) :
    Reads look restore m p (if m.nullable then .matched else .unmatched) p :=
  reads_of_refusing_lead hc hs fun rule _ ↦ rule.reads_of_not_starts

/-! ### Dropped signs -/

theorem starts_term_of_isSign {t : Token} (h : t.isSign = true) :
    (Matcher.rule .term).starts t = true := by
  have hf : ∀ test ∈ [TokenTest.mk .symbol (some "+"), ⟨.symbol, some "-"⟩],
      test ∈ Rule.first .term := by decide +kernel
  simp only [Token.isSign, Bool.or_eq_true] at h
  rw [Matcher.starts, List.any_eq_true]
  rcases h with h | h
  · exact ⟨_, hf _ (by simp), h⟩
  · exact ⟨_, hf _ (by simp), h⟩

/-- What may drop a sign goes on at the same tokens as a term. -/
theorem Rule.starts_of_dropsSign {rule : Rule} (h : rule.dropsSign = true) (t : Token) :
    (Matcher.rule rule).starts t = (Matcher.rule .term).starts t := by
  have hf : (∀ test ∈ rule.first, test ∈ Rule.first .term) ∧
      ∀ test ∈ Rule.first .term, test ∈ rule.first := by
    revert h
    exact of_all (by decide +kernel) rule
  rw [Bool.eq_iff_iff]
  simp only [Matcher.starts, List.any_eq_true]
  constructor
  · rintro ⟨test, hm, ht⟩
    exact ⟨test, hf.1 test hm, ht⟩
  · rintro ⟨test, hm, ht⟩
    exact ⟨test, hf.2 test hm, ht⟩

/-- What may drop signs may begin with every token that begins a term. -/
theorem Matcher.starts_of_drops {m : Matcher} (hm : m.tidy = true) (hd : m.drops = true)
    {t : Token} (ht : (rule .term).starts t = true) : m.starts t = true := by
  induction m with
  | rule name => rw [Rule.starts_of_dropsSign hd, ht]
  | both a b iha =>
    simp only [tidy, Bool.and_eq_true] at hm
    rw [starts_both, iha hm.1 hd, Bool.true_or]
  | rewindSign m =>
    obtain rfl := of_decide_eq_true hm
    rw [starts_rewindSign, starts_both, ht]
    exact Bool.or_true _
  | token | keyword | announce | either | must | optional | many | rewind => cases hd

/-- An optional sign is read exactly if it is there. -/
theorem reads_optional_sign (p : Nat) :
    Reads look restore (.optional Rule.sign) p .matched
      (if (look p).isSign then p + 1 else p) := by
  cases hp : TokenTest.accepts ⟨.symbol, some "+"⟩ (look p) with
  | true =>
    simp only [Token.isSign, hp, Bool.true_or, if_true]
    exact .optionalStop (.eitherStop (.accept hp) (by simp)) (by simp)
  | false =>
    cases hm : TokenTest.accepts ⟨.symbol, some "-"⟩ (look p) with
    | true =>
      simp only [Token.isSign, hm, Bool.or_true, if_true]
      exact .optionalStop (.either (.refuse hp) (.accept hm)) (by simp)
    | false =>
      simp only [Token.isSign, hp, hm, Bool.or_self, Bool.false_eq_true, if_false]
      exact .optional (.either (.refuse hp) (.refuse hm))

/-- Where no term follows the sign, if there is one, the beginning of an arithmetic expression
does not match. -/
theorem reads_signed_term
    (ht : (Matcher.rule .term).starts (look (if (look p).isSign then p + 1 else p)) = false) :
    Reads look restore (.both (.optional Rule.sign) (.rule .term)) p .unmatched
      (if (look p).isSign then p + 1 else p) :=
  .both (reads_optional_sign p) (Rule.term.reads_of_not_starts ht)

/-- Where the beginning of an arithmetic expression does not match, there is no term behind the
sign, if there is one. -/
theorem Reads.of_signed_term
    (h : Reads look restore (.both (.optional Rule.sign) (.rule .term)) p .unmatched q) :
    q = (if (look p).isSign then p + 1 else p) ∧
      (Matcher.rule .term).starts (look q) = false := by
  cases h with
  | bothStop h => exact absurd rfl (h.ne_unmatched_of_sure rfl)
  | both ha hb =>
    obtain ⟨-, rfl⟩ := ha.deterministic (reads_optional_sign p)
    obtain ⟨rfl, ht⟩ := hb.not_starts_of_prompt rfl
    exact ⟨rfl, ht⟩

/-- A tidy matcher that does not match has read nothing, or it has dropped a sign that no term
follows. -/
theorem Reads.stays_or_drops {m : Matcher} (h : Reads look restore m p .unmatched q)
    (hm : m.tidy = true) :
    q = p ∨ (restore = false ∧ m.drops = true ∧ q = p + 1 ∧ (look p).isSign = true ∧
      (Matcher.rule .term).starts (look (p + 1)) = false) := by
  generalize hv : Verdict.unmatched = v at h
  induction h with
  | accept | keyword | announce | must | optional | manyStop | manyDone => cases hv
  | refuse | noKeyword | rewind => exact .inl rfl
  | @rule name _ _ _ _ ih =>
    rw [name.drops_matcher] at ih
    exact ih name.tidy_matcher hv
  | bothStop _ _ ih =>
    simp only [Matcher.tidy, Bool.and_eq_true] at hm
    exact ih hm.1 hv
  | both _ hb =>
    simp only [Matcher.tidy, Bool.and_eq_true] at hm
    exact absurd hv.symm (hb.ne_unmatched_of_sure hm.2)
  | either _ _ iha ihb =>
    simp only [Matcher.tidy, Bool.and_eq_true, Bool.not_eq_true'] at hm
    simp only [hm.1.2, Bool.false_eq_true, false_and, and_false, or_false] at iha
    simp only [hm.2, Bool.false_eq_true, false_and, and_false, or_false] at ihb
    exact .inl ((ihb hm.1.1.2 hv).trans (iha hm.1.1.1 trivial))
  | many _ hr => exact absurd hv.symm (hr.ne_unmatched_of_sure rfl)
  | eitherStop _ hne | mustStop _ hne | optionalStop _ hne | rewindStop _ hne
  | rewindSignStop _ hne => exact absurd hv.symm hne
  | rewindSign h =>
    cases restore with
    | true => exact .inl rfl
    | false =>
      obtain rfl := of_decide_eq_true hm
      obtain ⟨hq, ht⟩ := h.of_signed_term
      split at hq
      · rename_i hs
        subst hq
        exact .inr ⟨rfl, rfl, rfl, hs, ht⟩
      · exact .inl hq

/-- Where nothing is dropped, nothing is read. -/
theorem Reads.stays {m : Matcher} (h : Reads look restore m p .unmatched q)
    (hm : m.tidy = true) (hd : m.drops = false) : q = p := by
  rcases h.stays_or_drops hm with hq | ⟨-, hd', -⟩
  · exact hq
  · exact absurd hd' (by simp [hd])

/-- A matcher that may drop signs drops one that no term follows, if signs are not restored. -/
theorem Matcher.reads_of_drops {m : Matcher} (hm : m.tidy = true) (hd : m.drops = true)
    (hs : (look p).isSign = true) (ht : (rule .term).starts (look (p + 1)) = false) :
    Reads look false m p .unmatched (p + 1) := by
  have hterm : Reads look false (.both (.optional Rule.sign) (.rule .term)) p .unmatched _ :=
    reads_signed_term (by rwa [if_pos hs])
  rw [if_pos hs] at hterm
  have harith : Reads look false (.rule .arithmeticExpression) p .unmatched (p + 1) :=
    .rule (.bothStop (.rewindSign hterm) (by simp))
  induction m with
  | rule name =>
    simp only [drops, Rule.dropsSign, Bool.or_eq_true, decide_eq_true_eq] at hd
    rcases hd with rfl | rfl
    · exact .rule (.bothStop harith (by simp))
    · exact harith
  | both a b iha =>
    simp only [tidy, Bool.and_eq_true] at hm
    exact .bothStop (iha hm.1 hd) (by simp)
  | rewindSign m =>
    obtain rfl := of_decide_eq_true hm
    exact .rewindSign hterm
  | token | keyword | announce | either | must | optional | many | rewind => cases hd

/-- A nonterminal that did not match does not match again, and moves no further. -/
theorem Rule.reads_again {rule : Rule} (h : Reads look restore (.rule rule) p .unmatched q) :
    Reads look restore (.rule rule) q .unmatched q := by
  rcases h.stays_or_drops rfl with rfl | ⟨-, hd, rfl, -, ht⟩
  · exact h
  · exact rule.reads_of_not_starts ((starts_of_dropsSign hd _).trans ht)

end Bugs
