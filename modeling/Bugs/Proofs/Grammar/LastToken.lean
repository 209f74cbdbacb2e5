import Bugs.Proofs.Grammar.Language
import Bugs.Proofs.Matcher.Border

/-!
# The last token of what is derived

What a nonterminal derives ends with a token that passes one of the last tests of the nonterminal
(`Rule.passes_last_of_mem`). The nonterminals never glance behind such a token, and so a token
list that is derived never ends where a matcher would look at what comes after it.
-/

open scoped Computability

namespace Bugs

/-- A list of the language of a matcher ends with one of its last tokens. -/
theorem Matcher.passes_last_of_mem {lenient : Bool} {L : Rule → Language Token}
    (hnil : ∀ name, [] ∉ L name)
    (hL : ∀ name, ∀ w ∈ L name, ∀ t ∈ w.getLast?, t.passes name.last = true) {m : Matcher}
    {w : List Token} (h : w ∈ m.language lenient L) {t : Token} (ht : t ∈ w.getLast?) :
    t.passes m.last = true := by
  induction m generalizing w t with
  | token test =>
    obtain ⟨t', ht', rfl⟩ := h
    obtain rfl : t' = t := by simpa using ht
    simpa [last, Token.passes] using ht'
  | keyword word =>
    obtain ⟨t', ht', rfl⟩ := h
    obtain rfl : t' = t := by simpa using ht
    simpa [last, Token.passes] using ht'
  | announce =>
    obtain rfl := (Language.mem_one _).mp h
    cases ht
  | rule name => exact hL name w h t ht
  | both a b iha ihb =>
    obtain ⟨u, hu, v, hv, rfl⟩ := Language.mem_mul.mp h
    rw [List.getLast?_append, Option.mem_def, Option.or_eq_some_iff,
      List.getLast?_eq_none_iff] at ht
    rw [last, Token.passes_append, Bool.or_eq_true]
    rcases ht with ht | ⟨rfl, ht⟩
    · exact .inl (ihb hv ht)
    · rw [nullable_of_nil_mem hnil hv, if_pos rfl]
      exact .inr (iha hu ht)
  | either a b iha ihb =>
    rw [last, Token.passes_append, Bool.or_eq_true]
    exact h.imp (fun h ↦ iha h ht) fun h ↦ ihb h ht
  | must m _ ih | rewind m ih | rewindSign m ih => exact ih h ht
  | optional m ih =>
    rw [last, Token.passes_append, Bool.or_eq_true]
    rcases h with (h | h) | h
    · obtain rfl := (Language.mem_one _).mp h
      cases ht
    · exact .inl (ih h ht)
    · split at h
      · rename_i hd
        obtain ⟨s, hs, rfl⟩ := mem_signs.mp h
        obtain rfl : s = t := by simpa using ht
        rw [hd.2, if_pos rfl, ← Token.isSign_eq_passes]
        exact .inr hs
      · exact absurd h (Language.notMem_zero _)
  | many m ih =>
    obtain ⟨parts, rfl, hparts⟩ := Language.mem_kstar.mp h
    clear h
    induction parts with
    | nil => cases ht
    | cons part parts ihparts =>
      rw [List.forall_mem_cons] at hparts
      rw [List.flatten_cons, List.getLast?_append, Option.mem_def, Option.or_eq_some_iff] at ht
      rcases ht with ht | ⟨-, ht⟩
      · exact ihparts hparts.2 ht
      · exact ih hparts.1 ht

/-- What a nonterminal derives ends with one of its last tokens. -/
theorem Rule.passes_last_of_mem {lenient : Bool} {rule : Rule} {w : List Token}
    (h : w ∈ rule.language lenient) {t : Token} (ht : t ∈ w.getLast?) :
    t.passes rule.last = true := by
  refine language_le (X := fun other ↦ {w | ∀ t ∈ w.getLast?, t.passes other.last = true})
    (fun other w _ hw t ht ↦ ?_) rule h t ht
  exact Token.passes_of_subset other.last_matcher (Matcher.passes_last_of_mem
    (fun name h ↦ name.nil_notMem_language _ h.2) (fun _ _ h ↦ h.1) hw ht)

end Bugs
