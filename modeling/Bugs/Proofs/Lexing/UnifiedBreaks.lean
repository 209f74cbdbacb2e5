import Bugs.Proofs.Lexing.Position
import Bugs.Text.Lines

/-!
# Texts with unified line breaks

A text may write its line breaks as line feeds, as carriage returns or as pairs of both, and
`Text.unifyBreaks` writes all of them as line feeds. Offsets change when a pair becomes one
character, but places do not (`Place.after_unifyBreaks`), and neither do the lines that a text is
cut into (`Text.splitLines_unifyBreaks`).

The lexemes of the unified text are those of the text, with unified line breaks and unified block
comments (`lexemes_unifyBreaks`). This is read off the lexical grammar: lexemes that fit in front of
one another still fit when all of them are unified, and what they spell then is the unified text
(`Fitting.unified`). So no scan of the two texts has to be compared.

## Main definitions

* `Lexeme.unified`: a lexeme with unified line breaks.

## Main results

* `Place.after_unifyBreaks`, `Text.splitLines_unifyBreaks`.
* `lexemes_unifyBreaks`.
-/

namespace Bugs

/-! ### Characters -/

namespace Text

theorem unifyBreaks_of_forall {source : List Char} (h : ∀ c ∈ source, isBreak c = false) :
    unifyBreaks source = source :=
  unifyBreaks_eq_self fun hmem ↦ by cases h _ hmem

/-- The line breaks of a text are unified by reading it in parts. -/
theorem unifyBreaks_append {before after : List Char} (h : Seam before after) :
    unifyBreaks (before ++ after) = unifyBreaks before ++ unifyBreaks after := by
  induction before using unifyBreaks.induct with
  | case1 => rfl
  | case2 rest ih => exact congrArg ('\n' :: ·) (ih h.tail.tail)
  | case3 rest hpair ih =>
    have hne (tail : List Char) : rest ++ after = '\n' :: tail → False :=
      h.append_ne_pair (fun tail _ ↦ hpair tail) tail rfl
    rw [List.cons_append, unifyBreaks_return hne, unifyBreaks_return hpair, ih h.tail,
      List.cons_append]
  | case4 c rest _ hc ih =>
    rw [List.cons_append, unifyBreaks_cons hc, unifyBreaks_cons hc, ih h.tail, List.cons_append]

/-- The two characters that close a comment stand next to each other only where they did before. -/
theorem close_infix_of_unifyBreaks {source : List Char}
    (h : ['*', '/'] <:+: unifyBreaks source) : ['*', '/'] <:+: source := by
  induction source using unifyBreaks.induct with
  | case1 => exact h
  | case2 rest ih =>
    rw [unifyBreaks, close_infix_cons] at h
    rw [close_infix_cons, close_infix_cons]
    exact .inr (.inr (ih (h.resolve_left (by simp))))
  | case3 rest hpair ih =>
    rw [unifyBreaks_return hpair, close_infix_cons] at h
    rw [close_infix_cons]
    exact .inr (ih (h.resolve_left (by simp)))
  | case4 c rest _ hc ih =>
    rw [unifyBreaks_cons hc, close_infix_cons] at h
    rw [close_infix_cons]
    refine h.imp (fun hopen ↦ ⟨hopen.1, ?_⟩) ih
    -- only a slash becomes the first character there
    by_contra hne
    have hhead : ∀ c ∈ rest.head?, c ≠ '/' := fun c hc h ↦ hne (h ▸ hc)
    exact forall_head?_unifyBreaks hhead (by decide) '/' hopen.2 rfl

/-- A text is cut into the same lines if its line breaks are unified. -/
theorem splitLines_unifyBreaks {separates : Char → Bool} (hfeed : separates '\n' = true)
    (hreturn : separates '\r' = true) (source : List Char) :
    splitLines separates (unifyBreaks source) = splitLines separates source := by
  have hcons {c : Char} (hc : c ≠ '\r') (rest : List Char) : splitLines separates (c :: rest) =
      if separates c then [] :: splitLines separates rest
      else prepend c (splitLines separates rest) :=
    splitLines.eq_3 _ _ _ fun _ h ↦ absurd h hc
  induction source using unifyBreaks.induct with
  | case1 => rfl
  | case2 rest ih =>
    rw [unifyBreaks, hcons (by decide), if_pos hfeed, ih, splitLines]
  | case3 rest hpair ih =>
    rw [unifyBreaks_return hpair, hcons (by decide), if_pos hfeed, ih,
      splitLines.eq_3 _ _ _ fun tail _ ↦ hpair tail, if_pos hreturn]
  | case4 c rest _ hc ih =>
    rw [unifyBreaks_cons hc, hcons hc, hcons hc, ih]

end Text

/-- The place behind a text does not depend on how its line breaks are written. -/
theorem Place.after_unifyBreaks (place : Place) (source : List Char) :
    place.after (Text.unifyBreaks source) = place.after source := by
  have hcons (place : Place) {c : Char} (hc : c ≠ '\r') (rest : List Char) :
      place.after (c :: rest) =
        if isBreak c then Place.after ⟨place.line + 1, 1⟩ rest
        else Place.after ⟨place.line, place.column + 1⟩ rest :=
    Place.after.eq_3 _ _ _ fun _ h ↦ absurd h hc
  induction source using Text.unifyBreaks.induct generalizing place with
  | case1 => rfl
  | case2 rest ih =>
    rw [Text.unifyBreaks, hcons place (by decide), if_pos (by decide), ih, Place.after]
  | case3 rest hpair ih =>
    rw [Text.unifyBreaks_return hpair, hcons place (by decide), if_pos (by decide), ih,
      Place.after.eq_3 _ _ _ fun tail _ ↦ hpair tail, if_pos (by decide)]
  | case4 c rest _ hc ih =>
    rw [Text.unifyBreaks_cons hc, hcons place hc, hcons place hc, ih, ih]

/-! ### Lexemes -/

/-- The lexeme with unified line breaks. -/
def Lexeme.unified : Lexeme → Lexeme
  | lineBreak _ => lineBreak .lineFeed
  | blockComment body closed => blockComment (Text.unifyBreaks body) closed
  | lexeme => lexeme

@[simp] theorem Lexeme.content?_unified (lexicon : Lexicon) (lexeme : Lexeme) :
    lexeme.unified.content? lexicon = lexeme.content? lexicon := by
  cases lexeme <;> rfl

/-- A unified lexeme spells the unified spelling. -/
theorem Lexeme.Fits.spelling_unified {lexeme : Lexeme} {rest : List Char} (h : lexeme.Fits rest) :
    lexeme.unified.spelling = Text.unifyBreaks lexeme.spelling := by
  have hkept (hline : ∀ form, lexeme ≠ .lineBreak form)
      (hcomment : ∀ body closed, lexeme ≠ .blockComment body closed) :
      lexeme.spelling = Text.unifyBreaks lexeme.spelling :=
    (Text.unifyBreaks_of_forall (h.isBreak_eq_false hline hcomment)).symm
  cases h with
  | @closedComment body =>
    have hseam : Seam body ['*', '/'] := fun _ ↦ by decide
    have hbody := Text.unifyBreaks_append hseam
    exact (congrArg ('/' :: '*' :: ·) hbody).symm
  | @openComment body =>
    simp only [unified, spelling, Bool.false_eq_true, if_false, List.append_nil]
    rfl
  | lineFeed | carriageReturn | pair => rfl
  | blank | lineComment | whole | fraction | word | closedQuote | openQuote | symbol =>
    exact hkept (by simp) (by simp)

/-- A unified lexeme fits in front of the unified text. -/
theorem Lexeme.Fits.unified {lexeme : Lexeme} {rest : List Char} (h : lexeme.Fits rest) :
    lexeme.unified.Fits (Text.unifyBreaks rest) := by
  cases h with
  | blank h => exact .blank h
  | lineComment hb hr => exact .lineComment hb (Text.forall_head?_unifyBreaks hr (by decide))
  | @closedComment body _ hb =>
    refine .closedComment fun hclose ↦ hb (Text.close_infix_of_unifyBreaks ?_)
    have hseam : Seam body ['*'] := fun _ ↦ by decide
    rwa [Text.unifyBreaks_append hseam]
  | openComment hb => exact .openComment (mt Text.close_infix_of_unifyBreaks hb)
  | lineFeed | carriageReturn | pair => exact .lineFeed
  | whole hne hd hr => exact .whole hne hd (Text.forall_head?_unifyBreaks hr (by decide))
  | fraction hne hd hf hr =>
    exact .fraction hne hd hf (Text.forall_head?_unifyBreaks hr (by decide))
  | word hc hl hr => exact .word hc hl (Text.forall_head?_unifyBreaks hr (by decide))
  | closedQuote hb => exact .closedQuote hb
  | openQuote hb hr => exact .openQuote hb (Text.forall_head?_unifyBreaks hr (by decide))
  | symbol h hr =>
    exact .symbol h fun hc ↦ Text.forall_head?_unifyBreaks (hr hc) (by decide)

/-- Unified lexemes fit in front of one another, and they spell the unified text. -/
theorem Fitting.unified {ls : List Lexeme} (h : Fitting ls) :
    Fitting (ls.map Lexeme.unified) ∧
      (ls.map Lexeme.unified).flatMap Lexeme.spelling =
        Text.unifyBreaks (ls.flatMap Lexeme.spelling) := by
  induction ls with
  | nil => exact ⟨trivial, rfl⟩
  | cons lexeme ls ih =>
    obtain ⟨hfit, hspelling⟩ := ih h.2
    rw [List.map_cons, List.flatMap_cons, List.flatMap_cons, Text.unifyBreaks_append h.1.seam,
      ← hspelling, h.1.spelling_unified]
    refine ⟨⟨?_, hfit⟩, rfl⟩
    rw [hspelling]
    exact h.1.unified

/-- The lexemes of a text with unified line breaks are the unified lexemes of the text. -/
theorem lexemes_unifyBreaks (source : List Char) :
    lexemes (Text.unifyBreaks source) = (lexemes source).map Lexeme.unified := by
  obtain ⟨hfit, hspelling⟩ := (fitting_lexemes source).unified
  rw [flatMap_spelling_lexemes] at hspelling
  exact lexemes_eq_iff.mpr ⟨hspelling, hfit⟩

/-- Unified lexemes have the tokens of the lexemes, at the same places. -/
theorem Fitting.placeTokens_unified (lexicon : Lexicon) {ls : List Lexeme} (h : Fitting ls)
    (place : Place) :
    placeTokens lexicon place (ls.map Lexeme.unified) = placeTokens lexicon place ls := by
  induction ls generalizing place with
  | nil => rfl
  | cons lexeme ls ih =>
    simp only [List.map_cons, placeTokens, Lexeme.content?_unified, h.1.spelling_unified,
      Place.after_unifyBreaks, ih h.2]

end Bugs
