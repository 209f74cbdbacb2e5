import Bugs.Proofs.Matcher.Shape
import Bugs.Proofs.Reading

/-!
# The face of a token

A matcher asks little of a token: its class and, of a keyword or a symbol, its text. This is the
face of the token. How a name, a number or a quoted text is spelled and which place the token has in
its text is not part of it. So a reading can be carried over to every stream on which the same faces
come in the same order, from whatever position on (`Reads.carry`).

## Main definitions

* `Token.face`: what a matcher sees of a token.
* `Matcher.superficial`: the matcher asks for nothing but faces.
* `SameFaces`: a stream shows the faces of another one in the same order.

## Main results

* `Rule.superficial_matcher`, `Reads.carry`.
-/

namespace Bugs

/-- What a matcher sees of a token: its class and, of a keyword or a symbol, its text. -/
def Token.face (t : Token) : TokenKind × Option String :=
  (t.kind, if t.kind = .keyword ∨ t.kind = .symbol then some t.text else none)

/-- The test asks for a text only where it asks for a keyword or a symbol. -/
def TokenTest.superficial (test : TokenTest) : Bool :=
  test.text.isNone || test.kind = .keyword || test.kind = .symbol

/-- A superficial test accepts tokens of the same face alike. -/
theorem TokenTest.accepts_of_face {test : TokenTest} (hs : test.superficial = true) {t t' : Token}
    (h : t'.face = t.face) : test.accepts t' = test.accepts t := by
  obtain ⟨kind, text⟩ := test
  obtain ⟨hkind, htext⟩ := Prod.mk.inj h
  rw [hkind] at htext
  by_cases hk : t.kind = kind
  · subst hk
    by_cases hw : t.kind = .keyword ∨ t.kind = .symbol
    · rw [if_pos hw, if_pos hw] at htext
      simp only [accepts, hkind, Option.some.inj htext]
    · have hnone : text.isNone = true := by
        simpa only [superficial, Bool.or_assoc, Bool.or_eq_true, decide_eq_true_eq, hw,
          or_false] using hs
      simp only [accepts, hkind, hnone, Bool.true_or]
  · simp only [accepts, hkind, hk, decide_false, Bool.false_and]

namespace Matcher

/-- The matcher asks for nothing but the faces of tokens. -/
def superficial : Matcher → Bool
  | token test => test.superficial
  | keyword _ | announce _ | rule _ => true
  | both a b | either a b => a.superficial && b.superficial
  | must m _ | optional m | many m | rewind m | rewindSign m => m.superficial

end Matcher

/-- The matchers of the nonterminals are superficial, found by evaluation. -/
theorem Rule.superficial_matcher (rule : Rule) : rule.matcher.superficial = true :=
  of_all (by decide +kernel) rule

/-! ### Two streams -/

/-- From a position on, each token of a stream has its counterpart on another stream, with the same
face. Tokens that follow one another have counterparts that follow one another. -/
structure SameFaces (look look' : Nat → Token) (place : Nat → Nat) (p : Nat) : Prop where
  place_succ : ∀ i, p ≤ i → place (i + 1) = place i + 1
  face_eq : ∀ i, p ≤ i → (look' (place i)).face = (look i).face

namespace SameFaces

variable {look look' : Nat → Token} {place : Nat → Nat} {p q : Nat}

theorem mono (h : SameFaces look look' place p) (hle : p ≤ q) : SameFaces look look' place q :=
  ⟨fun i hi ↦ h.place_succ i (Nat.le_trans hle hi), fun i hi ↦ h.face_eq i (Nat.le_trans hle hi)⟩

theorem accepts_eq (h : SameFaces look look' place p) {test : TokenTest}
    (hs : test.superficial = true) : test.accepts (look' (place p)) = test.accepts (look p) :=
  TokenTest.accepts_of_face hs (h.face_eq p (Nat.le_refl _))

theorem accepts_keyword_eq (h : SameFaces look look' place p) (word : Option String) :
    TokenTest.accepts ⟨.keyword, word⟩ (look' (place p)) =
      TokenTest.accepts ⟨.keyword, word⟩ (look p) :=
  h.accepts_eq (by simp [TokenTest.superficial])

end SameFaces

/-- A superficial matcher reads a stream as it reads the counterparts of its tokens on another. -/
theorem Reads.carry {look look' : Nat → Token} {restore : Bool} {m : Matcher} {p q : Nat}
    {v : Verdict} (h : Reads look restore m p v q) (hm : m.superficial = true) {place : Nat → Nat}
    (hf : SameFaces look look' place p) : Reads look' restore m (place p) v (place q) := by
  induction h with
  | @accept test p h =>
    rw [hf.place_succ p (Nat.le_refl _)]
    exact .accept ((hf.accepts_eq hm).trans h)
  | refuse h => exact .refuse ((hf.accepts_eq hm).trans h)
  | @keyword word p h =>
    rw [hf.place_succ p (Nat.le_refl _)]
    exact .keyword ((hf.accepts_keyword_eq word).trans h)
  | noKeyword h => exact .noKeyword ((hf.accepts_keyword_eq _).trans h)
  | announce => exact .announce
  | @rule name _ _ _ _ ih => exact .rule (ih name.superficial_matcher hf)
  | bothStop _ hv ih =>
    simp only [Matcher.superficial, Bool.and_eq_true] at hm
    exact .bothStop (ih hm.1 hf) hv
  | both ha _ iha ihb =>
    simp only [Matcher.superficial, Bool.and_eq_true] at hm
    exact .both (iha hm.1 hf) (ihb hm.2 (hf.mono ha.le))
  | eitherStop _ hv ih =>
    simp only [Matcher.superficial, Bool.and_eq_true] at hm
    exact .eitherStop (ih hm.1 hf) hv
  | either ha _ iha ihb =>
    simp only [Matcher.superficial, Bool.and_eq_true] at hm
    exact .either (iha hm.1 hf) (ihb hm.2 (hf.mono ha.le))
  | mustStop _ hv ih => exact .mustStop (ih hm hf) hv
  | must _ ih => exact .must (ih hm hf)
  | optionalStop _ hv ih => exact .optionalStop (ih hm hf) hv
  | optional _ ih => exact .optional (ih hm hf)
  | manyStop _ ih => exact .manyStop (ih hm hf)
  | manyDone _ ih => exact .manyDone (ih hm hf)
  | many h _ ih ihr => exact .many (ih hm hf) (ihr hm (hf.mono h.le))
  | rewindStop _ hv ih => exact .rewindStop (ih hm hf) hv
  | rewind _ ih => exact .rewind (ih hm hf)
  | rewindSignStop _ hv ih => exact .rewindSignStop (ih hm hf) hv
  | rewindSign _ ih =>
    rw [apply_ite place]
    exact .rewindSign (ih hm hf)

end Bugs
