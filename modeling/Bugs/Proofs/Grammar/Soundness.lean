import Bugs.Proofs.Grammar.Language

/-!
# What is read is derivable

A matcher that matches has read a token list of its language, in the lenient grammar where signs
are dropped (`Reads.mem_language`), and so a nonterminal that matches has read what it derives.
A matcher that fails has read the beginning of such a list (`Reads.exists_completion`): what was
read before a complaint can always be completed. Both are shown by induction on the reading. The
parts that did not match have read nothing, except for a dropped sign, and the further alternative
of the lenient grammar is there for it.
-/

open scoped Computability

namespace Bugs

variable {look : Nat → Token} {restore : Bool} {m : Matcher} {p q : Nat} {v : Verdict}

/-- What a matcher reads when it matches is in its language. -/
theorem Reads.mem_language (h : Reads look restore m p v q) (hm : m.regular = true)
    (hv : v = .matched) : stretch look p q ∈ m.language (!restore) (Rule.language !restore) := by
  induction h with
  | @accept test p h =>
    rw [stretch_succ]
    exact ⟨_, h, rfl⟩
  | @keyword word p h =>
    rw [stretch_succ]
    exact ⟨_, h, rfl⟩
  | announce =>
    rw [stretch_self]
    rfl
  | refuse | noKeyword | must | manyStop | rewind | rewindSign => cases hv
  | @rule name _ _ _ _ ih =>
    rw [name.matcher_language] at ih
    exact ih name.regular_matcher hv
  | bothStop _ hne => exact absurd hv hne
  | both ha hb iha ihb =>
    simp only [Matcher.regular, Bool.and_eq_true] at hm
    rw [← stretch_append _ ha.le hb.le]
    exact Language.append_mem_mul (iha hm.1.1 rfl) (ihb hm.1.2 hv)
  | eitherStop _ _ ih =>
    simp only [Matcher.regular, Bool.and_eq_true] at hm
    exact .inl (ih hm.1.1.1 hv)
  | either ha _ _ ihb =>
    simp only [Matcher.regular, Bool.and_eq_true, Bool.not_eq_true'] at hm
    obtain rfl := ha.stays hm.1.2 hm.2
    exact .inr (ihb hm.1.1.2 hv)
  | mustStop _ _ ih =>
    simp only [Matcher.regular, Bool.and_eq_true] at hm
    exact ih hm.1 hv
  | optionalStop _ _ ih =>
    simp only [Matcher.regular, Bool.and_eq_true] at hm
    exact .inl (.inr (ih hm.1 hv))
  | optional h =>
    simp only [Matcher.regular, Bool.and_eq_true] at hm
    rcases h.stays_or_drops hm.2 with rfl | ⟨rfl, hd, rfl, hs, -⟩
    · rw [stretch_self]
      exact .inl (.inl rfl)
    · rw [stretch_succ]
      refine .inr ?_
      rw [hd, if_pos ⟨rfl, rfl⟩]
      exact mem_signs.mpr ⟨_, hs, rfl⟩
  | manyDone h =>
    simp only [Matcher.regular, Bool.and_eq_true, Bool.not_eq_true'] at hm
    obtain rfl := h.stays hm.1.1.1.2 hm.1.1.2
    rw [stretch_self]
    exact Language.nil_mem_kstar _
  | many h hr ih ihr =>
    have hm' := hm
    simp only [Matcher.regular, Bool.and_eq_true] at hm'
    rw [← stretch_append _ h.le hr.le]
    exact mul_kstar_le_kstar (α := Language Token)
      (Language.append_mem_mul (ih hm'.1.1.1.1 rfl) (ihr hm hv))
  | rewindStop _ _ ih | rewindSignStop _ _ ih => exact ih hm hv

/-- What a nonterminal reads when it matches, it derives. -/
theorem Reads.derives {rule : Rule} (h : Reads look restore (.rule rule) p .matched q) :
    rule.Derives (!restore) (stretch look p q) :=
  h.mem_language rfl rfl

/-- A nonterminal that matches has read something. -/
theorem Reads.lt_of_matched {rule : Rule} (h : Reads look restore (.rule rule) p .matched q) :
    p < q := by
  refine Nat.lt_of_le_of_ne h.le ?_
  rintro rfl
  have hnil := h.derives
  rw [stretch_self] at hnil
  exact rule.nil_notMem_language _ hnil

/-! ### Completions -/

namespace Matcher

variable {lenient : Bool}

theorem exists_mem (lenient : Bool) (m : Matcher) :
    ∃ w, w ∈ m.language lenient (Rule.language lenient) :=
  exists_mem_language fun name _ ↦ name.exists_mem_language lenient

/-- A sign that is dropped could have begun a list of the language. -/
theorem exists_completion_of_drops {m : Matcher} (hm : m.tidy = true) (hd : m.drops = true)
    {s : Token} (hs : s.isSign = true) :
    ∃ z, [s] ++ z ∈ m.language lenient (Rule.language lenient) := by
  have hterm : ∃ z, [s] ++ z ∈ (both (optional Rule.sign) (.rule .term)).language lenient
      (Rule.language lenient) := by
    obtain ⟨z, hz⟩ := Rule.term.exists_mem_language lenient
    exact ⟨z, Language.append_mem_mul (.inl (.inr (mem_signs.mpr ⟨s, hs, rfl⟩))) hz⟩
  have harith : ∃ z, [s] ++ z ∈ Rule.arithmeticExpression.language lenient := by
    obtain ⟨z, hz⟩ := hterm
    rw [← Rule.matcher_language]
    exact ⟨z ++ [], List.append_assoc .. ▸ Language.append_mem_mul hz (Language.nil_mem_kstar _)⟩
  induction m with
  | rule name =>
    simp only [drops, Rule.dropsSign, Bool.or_eq_true, decide_eq_true_eq] at hd
    rcases hd with rfl | rfl
    · obtain ⟨z, hz⟩ := harith
      rw [language, ← Rule.matcher_language]
      exact ⟨z ++ [], List.append_assoc .. ▸ Language.append_mem_mul hz (Language.nil_mem_kstar _)⟩
    · exact harith
  | both a b iha =>
    simp only [tidy, Bool.and_eq_true] at hm
    obtain ⟨z, hz⟩ := iha hm.1 hd
    obtain ⟨w, hw⟩ := b.exists_mem lenient
    exact ⟨z ++ w, List.append_assoc .. ▸ Language.append_mem_mul hz hw⟩
  | rewindSign m =>
    obtain rfl := of_decide_eq_true hm
    exact hterm
  | token | keyword | announce | either | must | optional | many | rewind => cases hd

end Matcher

/-- What was read before a complaint can be completed to a list of the language. -/
theorem Reads.exists_completion {c : Complaint} (h : Reads look restore m p v q)
    (hm : m.regular = true) (hv : v = .failed c) :
    ∃ z, stretch look p q ++ z ∈ m.language (!restore) (Rule.language !restore) := by
  induction h with
  | accept | refuse | keyword | noKeyword | announce | optional | manyDone | rewind
  | rewindSign => cases hv
  | @rule name _ _ _ _ ih =>
    rw [name.matcher_language] at ih
    exact ih name.regular_matcher hv
  | @bothStop a b _ _ _ _ _ ih =>
    simp only [Matcher.regular, Bool.and_eq_true] at hm
    obtain ⟨z, hz⟩ := ih hm.1.1 hv
    obtain ⟨w, hw⟩ := b.exists_mem !restore
    exact ⟨z ++ w, List.append_assoc .. ▸ Language.append_mem_mul hz hw⟩
  | both ha hb _ ihb =>
    simp only [Matcher.regular, Bool.and_eq_true] at hm
    obtain ⟨z, hz⟩ := ihb hm.1.2 hv
    refine ⟨z, ?_⟩
    rw [← stretch_append _ ha.le hb.le, List.append_assoc]
    exact Language.append_mem_mul (ha.mem_language hm.1.1 rfl) hz
  | eitherStop _ _ ih =>
    simp only [Matcher.regular, Bool.and_eq_true] at hm
    obtain ⟨z, hz⟩ := ih hm.1.1.1 hv
    exact ⟨z, .inl hz⟩
  | either ha _ _ ihb =>
    simp only [Matcher.regular, Bool.and_eq_true, Bool.not_eq_true'] at hm
    obtain rfl := ha.stays hm.1.2 hm.2
    obtain ⟨z, hz⟩ := ihb hm.1.1.2 hv
    exact ⟨z, .inr hz⟩
  | mustStop _ _ ih =>
    simp only [Matcher.regular, Bool.and_eq_true] at hm
    exact ih hm.1 hv
  | @must m _ _ _ h =>
    simp only [Matcher.regular, Bool.and_eq_true] at hm
    rcases h.stays_or_drops hm.2 with rfl | ⟨-, hd, rfl, hs, -⟩
    · rw [stretch_self]
      exact m.exists_mem !restore
    · rw [stretch_succ]
      exact Matcher.exists_completion_of_drops hm.2 hd hs
  | optionalStop _ _ ih =>
    simp only [Matcher.regular, Bool.and_eq_true] at hm
    obtain ⟨z, hz⟩ := ih hm.1 hv
    exact ⟨z, .inl (.inr hz)⟩
  | manyStop _ ih =>
    simp only [Matcher.regular, Bool.and_eq_true] at hm
    obtain ⟨z, hz⟩ := ih hm.1.1.1.1 hv
    exact ⟨z, le_kstar (α := Language Token) hz⟩
  | many h hr _ ihr =>
    obtain ⟨z, hz⟩ := ihr hm hv
    simp only [Matcher.regular, Bool.and_eq_true] at hm
    refine ⟨z, ?_⟩
    rw [← stretch_append _ h.le hr.le, List.append_assoc]
    exact mul_kstar_le_kstar (α := Language Token)
      (Language.append_mem_mul (h.mem_language hm.1.1.1.1 rfl) hz)
  | rewindStop _ _ ih | rewindSignStop _ _ ih => exact ih hm hv

end Bugs
