import Bugs.Proofs.Matcher.Border
import Bugs.Proofs.Matcher.Refusal

/-!
# How far a matcher looks

What a matcher reads depends on the tokens up to the one where it stops, and on no others, unless
it has gone back over a token. At the tokens where it may have done so it looks at one token
more (`Reads.of_agree`). So two streams that agree up to there are read alike, whatever the
verdict is.

## Main definitions

* `Agree`: two streams that agree between two positions, and behind the second one at the tokens
  that pass some tests.
-/

namespace Bugs

variable {look look' : Nat → Token} {restore : Bool} {p q : Nat} {v : Verdict}

/-- Two streams agree from a position up to another, and at the position behind if the last of
these tokens passes one of the tests. -/
structure Agree (look look' : Nat → Token) (tests : List TokenTest) (p q : Nat) : Prop where
  upto : ∀ i, p ≤ i → i ≤ q → look' i = look i
  behind : (look q).passes tests = true → look' (q + 1) = look (q + 1)

namespace Agree

variable {r : Nat} {tests tests' : List TokenTest}

theorem weaken (h : Agree look look' tests p q) (hsub : ∀ test ∈ tests', test ∈ tests) :
    Agree look look' tests' p q :=
  ⟨h.upto, fun ht ↦ h.behind (Token.passes_of_subset hsub ht)⟩

theorem left (h : Agree look look' tests p q) (hpr : p ≤ r) (hrq : r ≤ q) :
    Agree look look' tests p r := by
  refine ⟨fun i hi hi' ↦ h.upto i hi (by omega), fun ht ↦ ?_⟩
  rcases Nat.eq_or_lt_of_le hrq with rfl | hlt
  · exact h.behind ht
  · exact h.upto _ (by omega) hlt

theorem right (h : Agree look look' tests p q) (hpr : p ≤ r) : Agree look look' tests r q :=
  ⟨fun i hi ↦ h.upto i (by omega), h.behind⟩

theorem at_last (h : Agree look look' tests p q) (hpq : p ≤ q) : look' q = look q :=
  h.upto q hpq (Nat.le_refl _)

theorem at_first (h : Agree look look' tests p q) (hpq : p ≤ q) : look' p = look p :=
  h.upto p (Nat.le_refl _) hpq

end Agree

/-- A matcher of one token matches if it may go on at the token, and stands behind it then. -/
theorem Matcher.reads_single_iff {m : Matcher} (hm : m.single = true) :
    Reads look restore m p .matched q ↔ q = p + 1 ∧ m.starts (look p) = true := by
  constructor
  · intro h
    cases h with
    | accept h | keyword h => exact ⟨rfl, by simpa using h⟩
    | announce | rule | both | bothStop | eitherStop | either | mustStop | optionalStop | optional
    | manyDone | many | rewindStop | rewindSignStop => cases hm
  · rintro ⟨rfl, ht⟩
    cases m with
    | token test => exact .accept (by simpa using ht)
    | keyword word => exact .keyword (by simpa using ht)
    | announce | rule | both | either | must | optional | many | rewind | rewindSign => cases hm

theorem Reads.eq_of_single {m : Matcher} (h : Reads look restore m p .unmatched q)
    (hm : m.single = true) : q = p := by
  cases m with
  | token | keyword => exact (h.not_starts_of_prompt rfl).1
  | announce | rule | both | either | must | optional | many | rewind | rewindSign => cases hm

/-- A matcher that goes back over one token depends on that token and the one behind it. -/
private theorem Reads.rewind_of_agree {m : Matcher} (h : Reads look restore m p .unmatched q)
    (hm : (Matcher.rewind m).modest = true)
    (ha : Agree look look' ((Matcher.rewind m).glances restore) p p)
    (ih : m.modest = true → Agree look look' (m.glances restore) p q →
      Reads look' restore m p .unmatched q) :
    Reads look' restore (.rewind m) p .unmatched p := by
  cases m with
  | both a b =>
    simp only [Matcher.modest, Bool.and_eq_true, Bool.not_eq_true'] at hm
    obtain ⟨⟨⟨⟨hab, hs⟩, hp⟩, hc⟩, hn⟩ := hm
    cases h with
    | bothStop h _ =>
      obtain rfl := h.eq_of_single hs
      refine .rewind (ih (by simpa [Matcher.modest] using hab) (ha.weaken ?_))
      exact fun _ ↦ List.mem_append_left _
    | both h hb =>
      obtain ⟨rfl, ht⟩ := (Matcher.reads_single_iff hs).mp h
      obtain ⟨rfl, hst⟩ := hb.not_starts_of_prompt hp
      -- the token that was read is one at which the matcher glances behind it
      have hglance : (look p).passes ((Matcher.rewind (.both a b)).glances restore) = true := by
        rw [Matcher.glances, Token.passes_append, ← Matcher.starts_eq_passes, Matcher.starts_both,
          ht, Bool.true_or, Bool.or_true]
      have ha' : Reads look' restore a p .matched (p + 1) :=
        (Matcher.reads_single_iff hs).mpr ⟨rfl, by rwa [ha.at_last (Nat.le_refl _)]⟩
      have hb' : Reads look' restore b (p + 1) _ (p + 1) :=
        b.reads_of_not_starts hc (by rwa [ha.behind hglance])
      rw [hn] at hb'
      exact .rewind (.both ha' hb')
  | token | keyword | announce | rule | either | must | optional | many | rewind
  | rewindSign => cases hm

/-- The beginning of an arithmetic expression goes back over one sign, if signs are restored. -/
private theorem Reads.rewindSign_of_agree
    (h : Reads look restore (.both (.optional Rule.sign) (.rule .term)) p .unmatched q)
    (ha : Agree look look' (if restore then Rule.sign.first else []) p (if restore then p else q)) :
    Reads look' restore (.rewindSign (.both (.optional Rule.sign) (.rule .term))) p .unmatched
      (if restore then p else q) := by
  obtain ⟨hq, ht⟩ := h.of_signed_term
  have hle : p ≤ q := h.le
  have hp : look' p = look p := ha.at_first (by split <;> omega)
  have hlook : look' q = look q := by
    cases restore with
    | false => exact ha.at_last hle
    | true =>
      split at hq
      · rename_i hs
        subst hq
        rw [Token.isSign_eq_passes] at hs
        exact ha.behind hs
      · rwa [hq]
  rw [← hp] at hq
  have hr : Reads look' restore (.both (.optional Rule.sign) (.rule .term)) p .unmatched _ :=
    reads_signed_term (by rwa [← hq, hlook])
  rw [← hq] at hr
  exact .rewindSign hr

/-- A matcher reads two streams alike if they agree up to the token where it stops and, at a
token where it may have glanced behind, one token further. -/
theorem Reads.of_agree {m : Matcher} (h : Reads look restore m p v q) (hm : m.modest = true)
    (ha : Agree look look' (m.glances restore) p q) : Reads look' restore m p v q := by
  induction h with
  | accept h => exact .accept (by rwa [ha.at_first (Nat.le_succ _)])
  | refuse h => exact .refuse (by rwa [ha.at_first (Nat.le_refl _)])
  | keyword h => exact .keyword (by rwa [ha.at_first (Nat.le_succ _)])
  | noKeyword h => exact .noKeyword (by rwa [ha.at_first (Nat.le_refl _)])
  | announce => exact .announce
  | @rule name _ _ _ _ ih =>
    exact .rule (ih name.modest_matcher (ha.weaken (name.glances_matcher restore)))
  | bothStop _ hv ih =>
    simp only [Matcher.modest, Bool.and_eq_true] at hm
    exact .bothStop (ih hm.1 (ha.weaken fun _ ↦ List.mem_append_left _)) hv
  | both h hb iha ihb =>
    simp only [Matcher.modest, Bool.and_eq_true] at hm
    exact .both (iha hm.1 ((ha.left h.le hb.le).weaken fun _ ↦ List.mem_append_left _))
      (ihb hm.2 ((ha.right h.le).weaken fun _ ↦ List.mem_append_right _))
  | eitherStop _ hv ih =>
    simp only [Matcher.modest, Bool.and_eq_true] at hm
    exact .eitherStop (ih hm.1 (ha.weaken fun _ ↦ List.mem_append_left _)) hv
  | either h hb iha ihb =>
    simp only [Matcher.modest, Bool.and_eq_true] at hm
    exact .either (iha hm.1 ((ha.left h.le hb.le).weaken fun _ ↦ List.mem_append_left _))
      (ihb hm.2 ((ha.right h.le).weaken fun _ ↦ List.mem_append_right _))
  | mustStop _ hv ih => exact .mustStop (ih hm ha) hv
  | must _ ih => exact .must (ih hm ha)
  | optionalStop _ hv ih => exact .optionalStop (ih hm ha) hv
  | optional _ ih => exact .optional (ih hm ha)
  | manyStop _ ih => exact .manyStop (ih hm ha)
  | manyDone _ ih => exact .manyDone (ih hm ha)
  | many h hr ih ihr => exact .many (ih hm (ha.left h.le hr.le)) (ihr hm (ha.right h.le))
  | @rewindStop m _ _ _ _ hv ih =>
    have hm' : m.modest = true := by cases m <;> simp_all [Matcher.modest]
    exact .rewindStop (ih hm' (ha.weaken fun _ ↦ List.mem_append_left _)) hv
  | rewind h ih => exact h.rewind_of_agree hm ha ih
  | rewindSignStop _ hv ih =>
    obtain rfl := of_decide_eq_true hm
    exact .rewindSignStop (ih rfl (ha.weaken fun _ ↦ List.mem_append_left _)) hv
  | rewindSign h =>
    obtain rfl := of_decide_eq_true hm
    exact h.rewindSign_of_agree (ha.weaken fun _ ↦ List.mem_append_right _)

end Bugs
