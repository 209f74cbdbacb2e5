import Bugs.Proofs.Grammar.Language
import Bugs.Proofs.Matcher.Border

/-!
# What is derivable is read

A nonterminal reads every token list that it derives, provided that the token behind the list is
none at which it would have gone on (`Rule.consumes`). For a predictive matcher this follows part
by part, since the next token tells which part comes next (`Matcher.consumes_of_mem`). Terms and
arithmetic expressions are not predictive. There the derivations are first brought into the form
in which they are read: a term is a list of factors, of which the innermost call of a term takes
the last one, and a sign in front of an arithmetic expression is not part of its first factor.
Both forms are again languages in the Kleene algebra (`Rule.unrolled`), and the fact follows for
all nonterminals at once because the languages of the grammar are the least ones.

## Main definitions

* `Matcher.Consumes`: a matcher reads a list wherever it stands.
* `Rule.unrolled`: the lists that are known to be read, in the form in which they are read.

## Main results

* `Matcher.consumes_of_mem`, `Rule.consumes`.
-/

open scoped Computability

namespace Bugs

variable {restore : Bool}

/-- The matcher reads the list wherever it stands in front of a token at which the matcher does
not go on. -/
def Matcher.Consumes (restore : Bool) (m : Matcher) (w : List Token) : Prop :=
  ∀ look p, stretch look p (p + w.length) = w →
    (look (p + w.length)).passes m.further = false →
    Reads look restore m p .matched (p + w.length)

namespace Matcher.Consumes

variable {a b m : Matcher} {v w : List Token}

/-- A sequence reads one list after another if the first matcher stops at the second list. -/
theorem both (ha : a.Consumes restore v) (hb : b.Consumes restore w)
    (hnil : w = [] → b.nullable = true)
    (hcons : ∀ t w', w = t :: w' → t.passes a.further = false) :
    (Matcher.both a b).Consumes restore (v ++ w) := by
  intro look p hvw hf
  obtain ⟨hv, hw⟩ := stretch_eq_append hvw
  rw [List.length_append, ← Nat.add_assoc] at hf ⊢
  rw [further, Token.passes_append, Bool.or_eq_false_iff] at hf
  refine .both (ha look p hv ?_) (hb look _ hw hf.1)
  cases w with
  | nil => simpa [hnil rfl] using hf.2
  | cons t w' =>
    rw [look_of_stretch_eq_cons hw]
    exact hcons t w' rfl

/-- A loop reads a lap and the laps behind it if the lap stops at them. -/
theorem again (hm : m.Consumes restore v) (hw : (many m).Consumes restore w)
    (hcons : ∀ t w', w = t :: w' → t.passes m.further = false) :
    (many m).Consumes restore (v ++ w) := by
  intro look p hvw hf
  obtain ⟨hv, hw'⟩ := stretch_eq_append hvw
  rw [List.length_append, ← Nat.add_assoc] at hf ⊢
  refine .many (hm look p hv ?_) (hw look _ hw' hf)
  cases w with
  | nil =>
    rw [further, Token.passes_append, Bool.or_eq_false_iff] at hf
    exact hf.1
  | cons t w' =>
    rw [look_of_stretch_eq_cons hw']
    exact hcons t w' rfl

theorem done (hc : m.clean = true) (hn : m.nullable = false) : (many m).Consumes restore [] := by
  intro look p _ hf
  rw [further, Token.passes_append, Bool.or_eq_false_iff] at hf
  have h : Reads look restore m p _ p := m.reads_of_not_starts hc hf.2
  rw [hn] at h
  exact .manyDone h

theorem must {complaint : Complaint} (h : m.Consumes restore w) :
    (Matcher.must m complaint).Consumes restore w :=
  fun look p hw hf ↦ .mustStop (h look p hw hf) (by simp)

theorem rule {name : Rule} (h : name.matcher.Consumes restore w) :
    (Matcher.rule name).Consumes restore w :=
  fun look p hw hf ↦ .rule (h look p hw (Token.passes_eq_false_of_subset name.further_matcher hf))

end Matcher.Consumes

/-! ### Predictive matchers -/

/-- A predictive matcher reads the lists of its language, if the nonterminals do. -/
theorem Matcher.consumes_of_mem {L : Rule → Language Token} (hnil : ∀ name, [] ∉ L name)
    (hfirst : ∀ name t w, t :: w ∈ L name → (rule name).starts t = true)
    (hL : ∀ name, ∀ w ∈ L name, (rule name).Consumes restore w) {m : Matcher}
    (hm : m.regular = true) (hp : m.predictive = true) {w : List Token}
    (h : w ∈ m.language (!restore) L) : m.Consumes restore w := by
  induction m generalizing w with
  | token test =>
    obtain ⟨t, ht, rfl⟩ := h
    intro look p hw _
    rw [← look_of_stretch_eq_cons hw] at ht
    exact .accept ht
  | keyword word =>
    obtain ⟨t, ht, rfl⟩ := h
    intro look p hw _
    rw [← look_of_stretch_eq_cons hw] at ht
    exact .keyword ht
  | announce construct =>
    obtain rfl := (Language.mem_one _).mp h
    exact fun look p _ _ ↦ .announce
  | rule name => exact hL name w h
  | both a b iha ihb =>
    simp only [regular, Bool.and_eq_true] at hm
    simp only [predictive, Bool.and_eq_true] at hp
    obtain ⟨u, hu, v, hv, rfl⟩ := Language.mem_mul.mp h
    refine (iha hm.1.1 hp.1.1 hu).both (ihb hm.1.2 hp.1.2 hv) (fun hv' ↦ ?_) fun t v' hv' ↦ ?_
    · exact nullable_of_nil_mem hnil (hv' ▸ hv)
    · exact Token.passes_of_apart hp.2 (starts_of_mem hnil hfirst hm.1.2 (hv' ▸ hv))
  | either a b iha ihb =>
    simp only [regular, Bool.and_eq_true] at hm
    simp only [predictive, Bool.and_eq_true, Bool.not_eq_true'] at hp
    obtain ⟨⟨⟨⟨hpa, hpb⟩, hc⟩, hn⟩, hap⟩ := hp
    intro look p hw hf
    simp only [further, Token.passes_append, Bool.or_eq_false_iff] at hf
    rcases h with h | h
    · exact .eitherStop (iha hm.1.1.1 hpa h look p hw hf.1.1) (by simp)
    · have hs : a.starts (look p) = false := by
        cases w with
        | nil =>
          rw [starts_eq_passes]
          simpa [nullable_of_nil_mem hnil h] using hf.2
        | cons t w' =>
          rw [look_of_stretch_eq_cons hw]
          exact Token.passes_of_apart hap (starts_of_mem hnil hfirst hm.1.1.2 h)
      have ha : Reads look restore a p _ p := a.reads_of_not_starts hc hs
      rw [hn] at ha
      exact .either ha (ihb hm.1.1.2 hpb h look p hw hf.1.2)
  | must m c ih =>
    simp only [regular, Bool.and_eq_true] at hm
    exact (ih hm.1 hp h).must
  | optional m ih =>
    simp only [regular, Bool.and_eq_true] at hm
    simp only [predictive, Bool.and_eq_true, Bool.not_eq_true'] at hp
    intro look p hw hf
    simp only [further, Token.passes_append, Bool.or_eq_false_iff] at hf
    rcases h with (h | h) | h
    · obtain rfl := (Language.mem_one _).mp h
      have hm' : Reads look restore m p _ p := m.reads_of_not_starts hp.1.2 hf.2
      rw [hp.2] at hm'
      exact .optional hm'
    · exact .optionalStop (ih hm.1 hp.1.1 h look p hw hf.1) (by simp)
    · split at h
      · rename_i hd
        -- the sign is dropped, since no term can begin behind it
        obtain ⟨s, hs, rfl⟩ := mem_signs.mp h
        rw [← look_of_stretch_eq_cons hw] at hs
        obtain rfl : restore = false := by simpa using hd.1
        refine .optional (m.reads_of_drops hm.2 hd.2 hs ?_)
        exact Bool.eq_false_iff.mpr fun ht ↦
          Bool.eq_false_iff.mp hf.2 (starts_of_drops hm.2 hd.2 ht)
      · exact absurd h (Language.notMem_zero _)
  | many m ih =>
    have hm' := hm
    simp only [regular, Bool.and_eq_true] at hm'
    simp only [predictive, Bool.and_eq_true, Bool.not_eq_true'] at hp
    obtain ⟨parts, rfl, hparts⟩ := Language.mem_kstar.mp h
    clear h
    induction parts with
    | nil => exact .done hp.1.1.2 hp.1.2
    | cons part parts ihparts =>
      rw [List.forall_mem_cons] at hparts
      refine (ih hm'.1.1.1.1 hp.1.1.1 hparts.1).again (ihparts hparts.2) fun t w' hw ↦ ?_
      have hstar : t :: w' ∈ (many m).language (!restore) L :=
        hw ▸ Language.join_mem_kstar hparts.2
      exact Token.passes_of_apart hp.2 (starts_of_mem hnil hfirst hm hstar)
  | rewind m ih =>
    exact fun look p hw hf ↦ .rewindStop (ih hm hp h look p hw hf) (by simp)
  | rewindSign m ih =>
    exact fun look p hw hf ↦ .rewindSignStop (ih hm hp h look p hw hf) (by simp)

/-! ### Terms and arithmetic expressions -/

namespace Rule

/-- The lists that a nonterminal derives and reads. -/
def consumed (restore : Bool) (rule : Rule) : Language Token :=
  {w | w ∈ rule.language (!restore) ∧ (Matcher.rule rule).Consumes restore w}

/-- The lists of factors. -/
def factors (restore : Bool) : Language Token :=
  unsignedFactor.consumed restore *
    (multiplyOperator.consumed restore * ((1 + signs) * unsignedFactor.consumed restore))∗

/-- The lists that a nonterminal is to read. A factor is taken apart into its sign and what
follows, and a term into its factors. -/
def unrolled (restore : Bool) : Rule → Language Token
  | factor => (1 + signs) * unsignedFactor.consumed restore
  | term => (1 + signs) * factors restore
  | rule => rule.consumed restore

variable {rule : Rule} {w : List Token}

theorem nil_notMem_consumed (rule : Rule) : [] ∉ rule.consumed restore :=
  fun h ↦ rule.nil_notMem_language _ h.1

/-- Predictive matchers read the lists of their languages. -/
private theorem consumes_of_mem_consumed {m : Matcher} (hm : m.regular = true)
    (hp : m.predictive = true) (h : w ∈ m.language (!restore) (consumed restore)) :
    m.Consumes restore w :=
  Matcher.consumes_of_mem nil_notMem_consumed (fun _ _ _ h ↦ starts_of_mem h.1)
    (fun _ _ h ↦ h.2) hm hp h

private theorem consumes_factor (h : w ∈ factor.unrolled restore) :
    (Matcher.rule .factor).Consumes restore w := by
  refine .rule (consumes_of_mem_consumed rfl (by decide +kernel) ?_)
  rw [unrolled, add_mul, one_mul, add_comm] at h
  exact h

theorem nil_notMem_factor : [] ∉ factor.unrolled restore := by
  intro h
  obtain ⟨s, -, u, hu, hsu⟩ := Language.mem_mul.mp h
  obtain ⟨-, rfl⟩ := List.append_eq_nil_iff.mp hsu
  exact nil_notMem_consumed _ hu

/-- A term is read factor by factor: the innermost call reads the last factor, and every other
call ends its loop after the lap in which it called the next one. -/
private theorem consumes_term_of_factors {parts : List (List Token)}
    (hw : w ∈ factor.unrolled restore)
    (hparts : ∀ part ∈ parts, part ∈ multiplyOperator.consumed restore * factor.unrolled restore) :
    (Matcher.rule .term).Consumes restore (w ++ parts.flatten) := by
  induction parts generalizing w with
  | nil =>
    exact .rule ((consumes_factor hw).both (.done rfl rfl) (fun _ ↦ rfl) (by simp))
  | cons part parts ih =>
    rw [List.forall_mem_cons] at hparts
    obtain ⟨o, ho, f, hf, rfl⟩ := Language.mem_mul.mp hparts.1
    have hlap : (Matcher.both (.rule .multiplyOperator) (.must (.rule .term)
        (.expected .term .multiplyOperator))).Consumes restore (o ++ (f ++ parts.flatten)) := by
      refine ho.2.both (ih hf hparts.2).must (fun h ↦ ?_) fun _ _ _ ↦ rfl
      exact absurd ((List.append_eq_nil_iff.mp h).1 ▸ hf) nil_notMem_factor
    have hloop := hlap.again (.done rfl rfl) (by simp)
    rw [List.append_nil] at hloop
    rw [List.flatten_cons, List.append_assoc]
    refine .rule ((consumes_factor hw).both hloop (fun _ ↦ rfl) fun t w' ht ↦ ?_)
    -- the loop begins with an operator, at which no factor goes on
    cases o with
    | nil => exact absurd ho (nil_notMem_consumed _)
    | cons t' o =>
      cases ht
      exact Token.passes_of_apart (by decide +kernel) (starts_of_mem ho.1)

theorem unrolled_of_ne (hf : rule ≠ .factor) (ht : rule ≠ .term) :
    rule.unrolled restore = rule.consumed restore := by
  cases rule <;> first | rfl | contradiction

/-- What is unrolled is read. -/
private theorem consumes_of_mem_unrolled (h : w ∈ rule.unrolled restore) :
    (Matcher.rule rule).Consumes restore w := by
  by_cases hf : rule = .factor
  · subst hf
    exact consumes_factor h
  by_cases ht : rule = .term
  · subst ht
    rw [unrolled, factors, ← mul_assoc] at h
    obtain ⟨f, hf, laps, hlaps, rfl⟩ := Language.mem_mul.mp h
    obtain ⟨parts, rfl, hparts⟩ := Language.mem_kstar.mp hlaps
    exact consumes_term_of_factors hf hparts
  · rw [unrolled_of_ne hf ht] at h
    exact h.2

private theorem factors_le_term : factors restore ≤ term.unrolled restore := by
  rw [unrolled, add_mul, one_mul]
  exact le_self_add

private theorem nil_notMem_factors : [] ∉ factors restore := by
  intro h
  obtain ⟨u, hu, laps, -, hul⟩ := Language.mem_mul.mp h
  obtain ⟨rfl, -⟩ := List.append_eq_nil_iff.mp hul
  exact nil_notMem_consumed _ hu

private theorem isSign_of_mem_factors {t : Token} (h : t :: w ∈ factors restore) :
    t.isSign = false := by
  obtain ⟨u, hu, laps, -, hul⟩ := Language.mem_mul.mp h
  cases u with
  | nil => exact absurd hu (nil_notMem_consumed _)
  | cons t' u =>
    cases hul
    rw [Token.isSign_eq_passes]
    exact Token.passes_of_apart (by decide +kernel) (starts_of_mem hu.1)

private theorem consumes_sign_term {t : Token} (ht : t.isSign = true)
    (hw : w ∈ term.unrolled restore) :
    (Matcher.both (.optional sign) (.rule .term)).Consumes restore ([t] ++ w) := by
  intro look p htw hf
  obtain ⟨hhead, htail⟩ := stretch_eq_append htw
  have hsign : Reads look restore (.optional sign) p .matched _ := reads_optional_sign p
  rw [look_of_stretch_eq_cons hhead, ht, if_pos rfl] at hsign
  rw [List.length_append, ← Nat.add_assoc] at hf ⊢
  refine .both hsign (consumes_of_mem_unrolled hw look _ htail ?_)
  simpa [Matcher.further, Matcher.nullable] using hf

private theorem consumes_unsigned_term (hw : w ∈ factors restore) :
    (Matcher.both (.optional sign) (.rule .term)).Consumes restore w := by
  intro look p hlook hf
  have hsign : Reads look restore (.optional sign) p .matched _ := reads_optional_sign p
  cases w with
  | nil => exact absurd hw nil_notMem_factors
  | cons t w =>
    rw [look_of_stretch_eq_cons hlook, isSign_of_mem_factors hw, if_neg Bool.false_ne_true] at hsign
    refine .both hsign (consumes_of_mem_unrolled (factors_le_term hw) look p hlook ?_)
    simpa [Matcher.further, Matcher.nullable] using hf

/-- The beginning of an arithmetic expression reads a term with or without a sign in front. A term
that begins with a sign itself is read as the sign and a list of factors. -/
private theorem consumes_signed_term (h : w ∈ (1 + signs) * term.unrolled restore) :
    (Matcher.both (.optional sign) (.rule .term)).Consumes restore w := by
  obtain ⟨u, hu, t, ht, rfl⟩ := Language.mem_mul.mp h
  rcases hu with hu | hu
  · obtain rfl := (Language.mem_one _).mp hu
    obtain ⟨u, hu, y, hy, rfl⟩ := Language.mem_mul.mp ht
    rcases hu with hu | hu
    · obtain rfl := (Language.mem_one _).mp hu
      exact consumes_unsigned_term hy
    · obtain ⟨s, hs, rfl⟩ := mem_signs.mp hu
      exact consumes_sign_term hs (factors_le_term hy)
  · obtain ⟨s, hs, rfl⟩ := mem_signs.mp hu
    exact consumes_sign_term hs ht

/-! ### All nonterminals -/

section Closure

variable {L : Rule → Language Token}

/-- The lists of a matcher begin with its first tokens if those of the nonterminals are derived. -/
private theorem starts_of_mem_language (hl : ∀ other, L other ≤ other.language (!restore))
    {m : Matcher} (hm : m.regular = true) {t : Token} (h : t :: w ∈ m.language (!restore) L) :
    m.starts t = true :=
  Matcher.starts_of_mem (fun other h ↦ other.nil_notMem_language _ (hl other h))
    (fun other _ _ h ↦ starts_of_mem (hl other h)) hm h

variable (hu : ∀ other, L other ≤ other.unrolled restore)
  (hl : ∀ other, L other ≤ other.language (!restore))

include hu

private theorem factor_matcher_le :
    factor.matcher.language (!restore) L ≤ factor.unrolled restore := by
  calc factor.matcher.language (!restore) L
      = signs * L .unsignedFactor + L .unsignedFactor := rfl
    _ ≤ signs * unsignedFactor.consumed restore + unsignedFactor.consumed restore :=
        add_le_add (mul_le_mul' le_rfl (hu .unsignedFactor)) (hu .unsignedFactor)
    _ = factor.unrolled restore := by rw [unrolled, add_mul, one_mul, add_comm]

private theorem term_matcher_le :
    term.matcher.language (!restore) L ≤ term.unrolled restore := by
  let f := factor.unrolled restore
  let o := multiplyOperator.consumed restore
  calc term.matcher.language (!restore) L
      = L .factor * (L .multiplyOperator * L .term)∗ := rfl
    _ ≤ f * (o * term.unrolled restore)∗ :=
        mul_le_mul' (hu .factor) (kstar_mono (mul_le_mul' (hu .multiplyOperator) (hu .term)))
    _ = f * (o * f * (o * f)∗)∗ := by simp only [unrolled, factors, f, o, mul_assoc]
    _ ≤ f * (o * f)∗ :=
        mul_le_mul' le_rfl ((kstar_mono mul_kstar_le_kstar).trans_eq (kstar_idem _))
    _ = term.unrolled restore := by simp only [unrolled, factors, f, o, mul_assoc]

include hl

private theorem consumes_of_mem_language {m : Matcher} (hm : m.regular = true)
    (hp : m.predictive = true) (h : w ∈ m.language (!restore) L) : m.Consumes restore w :=
  Matcher.consumes_of_mem (fun other h ↦ other.nil_notMem_language _ (hl other h))
    (fun other _ _ h ↦ starts_of_mem (hl other h))
    (fun other _ h ↦ consumes_of_mem_unrolled (hu other h)) hm hp h

private theorem consumes_arithmeticExpression
    (h : w ∈ arithmeticExpression.matcher.language (!restore) L) :
    arithmeticExpression.matcher.Consumes restore w := by
  obtain ⟨u, hu', v, hv, rfl⟩ := Language.mem_mul.mp h
  have hsign : (Matcher.optional sign).language (!restore) L ≤ 1 + signs := by
    rw [Matcher.language, show sign.drops = false from rfl, Matcher.language_sign]
    simp
  have hbegin := consumes_signed_term (mul_le_mul' hsign (hu .term) hu')
  refine .both (fun look p hw hf ↦ .rewindSignStop (hbegin look p hw hf) (by simp))
    (consumes_of_mem_language hu hl (by decide +kernel) (by decide +kernel) hv) (fun _ ↦ rfl)
    fun t v' ht ↦ ?_
  subst ht
  exact Token.passes_of_apart (by decide +kernel)
    (starts_of_mem_language hl (by decide +kernel) hv)

/-- The lists that are unrolled and derived are closed under the matchers. -/
private theorem mem_unrolled_of_mem_matcher (hw : w ∈ rule.language (!restore))
    (h : w ∈ rule.matcher.language (!restore) L) : w ∈ rule.unrolled restore := by
  by_cases hf : rule = .factor
  · subst hf
    exact factor_matcher_le hu h
  by_cases ht : rule = .term
  · subst ht
    exact term_matcher_le hu h
  rw [unrolled_of_ne hf ht]
  refine ⟨hw, .rule ?_⟩
  by_cases ha : rule = .arithmeticExpression
  · subst ha
    exact consumes_arithmeticExpression hu hl h
  · exact consumes_of_mem_language hu hl rule.regular_matcher (predictive_matcher ht ha) h

end Closure

/-- A nonterminal reads every list that it derives. -/
theorem consumes (h : w ∈ rule.language (!restore)) : (Matcher.rule rule).Consumes restore w :=
  consumes_of_mem_unrolled (language_le (fun _ _ hw h ↦ mem_unrolled_of_mem_matcher
    (fun _ _ h ↦ h.1) (fun _ _ h ↦ h.2) hw h) rule h)

/-- In front of an end of the input, a nonterminal reads every list that it derives. -/
theorem reads_of_mem {look : Nat → Token} {p : Nat} (h : w ∈ rule.language (!restore))
    (hw : stretch look p (p + w.length) = w) (hend : (look (p + w.length)).kind = .endOfInput) :
    Reads look restore (.rule rule) p .matched (p + w.length) :=
  consumes h look p hw (rule.passes_further_of_kind hend)

end Rule

end Bugs
