import Bugs.Proofs.Lexing.Position

/-!
# Texts joined by a line feed

A line feed between two texts keeps their tokens apart, whatever the first text ends in: a word, a
number with a point, a slash, a line comment or an open quoted text. Only an open block comment runs
on behind the line feed, and a carriage return at the end of the first text becomes one line break
with it. In all other cases the tokens of the joined text are those of the first text, a line end in
place of its end of the input, and those of the second text on the lines below.

The lexemes of the two texts still fit in front of one another (`Fitting.append_lineFeed`), so they
are the lexemes of the joined text, and no scan of it has to be followed. Behind the line feed a
line begins, and from there on the places are those of the second text, moved down
(`placeTokens_below`).

## Main definitions

* `EndsInComment`: the text ends inside an open block comment.
* `Place.below`, `Token.below`: places and tokens moved down.

## Main results

* `lexemes_append_lineFeed`, `placeTokens_append`.
* `tokenize_append_lineFeed`.
-/

namespace Bugs

/-- The text ends inside a block comment that is not closed. -/
def EndsInComment (source : String) : Prop :=
  ∃ body, (lexemes source.toList).getLast? = some (.blockComment body false)

/-- The place that lies the given number of lines below. -/
def Place.below (lines : Nat) (place : Place) : Place :=
  ⟨lines + place.line, place.column⟩

/-- The token, placed the given number of lines below. -/
def Token.below (lines : Int) (t : Token) : Token :=
  { t with line := lines + t.line }

/-! ### Lexemes -/

theorem forall_head?_append_lineFeed {P : Char → Prop} {rest : List Char}
    (h : ∀ c ∈ rest.head?, P c) (hfeed : P '\n') (after : List Char) :
    ∀ c ∈ (rest ++ '\n' :: after).head?, P c := by
  cases rest with
  | nil =>
    rintro c ⟨⟩
    exact hfeed
  | cons d rest => exact h

/-- A lexeme that fits in front of a text fits there when a line feed follows the text. Where the
text is empty, an open comment would run on and a carriage return would become a pair. -/
theorem Lexeme.Fits.append_lineFeed {lexeme : Lexeme} {rest : List Char} (h : lexeme.Fits rest)
    (hopen : rest = [] → ∀ body, lexeme ≠ .blockComment body false)
    (hreturn : rest = [] → lexeme ≠ .lineBreak .carriageReturn) (after : List Char) :
    lexeme.Fits (rest ++ '\n' :: after) := by
  cases h with
  | blank h => exact .blank h
  | lineComment hb hr =>
    exact .lineComment hb (forall_head?_append_lineFeed hr (by decide) after)
  | closedComment hb => exact .closedComment hb
  | openComment => exact absurd rfl (hopen rfl _)
  | lineFeed => exact .lineFeed
  | carriageReturn hr =>
    cases rest with
    | nil => exact absurd rfl (hreturn rfl)
    | cons d rest => exact .carriageReturn hr
  | pair => exact .pair
  | whole hne hd hr =>
    exact .whole hne hd (forall_head?_append_lineFeed hr (by decide) after)
  | fraction hne hd hf hr =>
    exact .fraction hne hd hf (forall_head?_append_lineFeed hr (by decide) after)
  | word hc hl hr => exact .word hc hl (forall_head?_append_lineFeed hr (by decide) after)
  | closedQuote hb => exact .closedQuote hb
  | openQuote hb hr =>
    exact .openQuote hb (forall_head?_append_lineFeed hr (by decide) after)
  | symbol h hr =>
    exact .symbol h fun hc ↦ forall_head?_append_lineFeed (hr hc) (by decide) after

/-- Lexemes of which the last one is no open comment and no carriage return fit in front of a line
feed and whatever follows it. -/
theorem Fitting.append_lineFeed {before after : List Lexeme} (h : Fitting before)
    (hopen : ∀ body, before.getLast? ≠ some (.blockComment body false))
    (hreturn : before.getLast? ≠ some (.lineBreak .carriageReturn)) (hafter : Fitting after) :
    Fitting (before ++ .lineBreak .lineFeed :: after) := by
  induction before with
  | nil => exact ⟨.lineFeed, hafter⟩
  | cons lexeme before ih =>
    have hend : before.flatMap Lexeme.spelling = [] → before = [] := by
      intro hnil
      cases before with
      | nil => rfl
      | cons next before =>
        rw [List.flatMap_cons, List.append_eq_nil_iff] at hnil
        exact absurd hnil.1 h.2.1.spelling_ne_nil
    have hlast {other : Lexeme} (hother : (lexeme :: before).getLast? ≠ some other) :
        before.flatMap Lexeme.spelling = [] → lexeme ≠ other := by
      intro hnil heq
      rw [hend hnil, heq] at hother
      exact hother rfl
    have hrest {other : Lexeme} (hother : (lexeme :: before).getLast? ≠ some other) :
        before.getLast? ≠ some other := by
      intro heq
      rw [List.getLast?_cons, heq] at hother
      exact hother rfl
    refine ⟨?_, ih h.2 (fun body ↦ hrest (hopen body)) (hrest hreturn)⟩
    rw [List.append_eq, List.flatMap_append, List.flatMap_cons]
    exact h.1.append_lineFeed (fun hnil body ↦ hlast (hopen body) hnil) (hlast hreturn) _

/-- A line feed separates the lexemes of two texts. -/
theorem lexemes_append_lineFeed {before : List Char} (after : List Char)
    (hopen : ∀ body, (lexemes before).getLast? ≠ some (.blockComment body false))
    (hreturn : before.getLast? ≠ some '\r') :
    lexemes (before ++ '\n' :: after) =
      lexemes before ++ .lineBreak .lineFeed :: lexemes after := by
  have hlast : (lexemes before).getLast? ≠ some (.lineBreak .carriageReturn) := by
    intro h
    obtain ⟨ls, hls⟩ := List.getLast?_eq_some_iff.mp h
    refine hreturn ?_
    rw [← flatMap_spelling_lexemes before, hls, List.flatMap_append]
    exact List.getLast?_concat
  refine lexemes_eq_iff.mpr ⟨?_, ?_⟩
  · rw [List.flatMap_append, List.flatMap_cons, flatMap_spelling_lexemes,
      flatMap_spelling_lexemes]
    rfl
  · exact (fitting_lexemes before).append_lineFeed hopen hlast (fitting_lexemes after)

/-! ### Tokens -/

/-- The tokens of lexemes that are read in two parts: those of the first part without its end of the
input, and those of the second part from where the first part ends. -/
theorem placeTokens_append (lexicon : Lexicon) {before after : List Lexeme}
    (h : Fitting (before ++ after)) (place : Place) :
    ∃ tokens, placeTokens lexicon place before =
        tokens ++ [.inputEnd (place.after (before.flatMap Lexeme.spelling))] ∧
      placeTokens lexicon place (before ++ after) = tokens ++
        placeTokens lexicon (place.after (before.flatMap Lexeme.spelling)) after := by
  induction before generalizing place with
  | nil => exact ⟨[], rfl, rfl⟩
  | cons lexeme before ih =>
    have hseam : Seam lexeme.spelling (before.flatMap Lexeme.spelling) := by
      have hwhole := h.1.seam
      rw [List.append_eq, List.flatMap_append] at hwhole
      exact hwhole.of_append
    obtain ⟨tokens, hbefore, hwhole⟩ := ih h.2 (place.after lexeme.spelling)
    rw [List.flatMap_cons, Place.after_append hseam, List.cons_append, placeTokens, placeTokens,
      hbefore, hwhole]
    cases lexeme.content? lexicon with
    | none => exact ⟨tokens, rfl, rfl⟩
    | some content =>
      exact ⟨.placedAt place content.1 content.2 :: tokens, rfl, rfl⟩

/-- A text that begins some lines below ends as many lines below. -/
theorem Place.after_below (lines : Nat) (place : Place) (source : List Char) :
    (place.below lines).after source = (place.after source).below lines := by
  induction place, source using Place.after.induct with
  | case1 place => rfl
  | case2 place rest ih => exact ih
  | case3 place c rest hc hbreak ih =>
    rw [Place.after.eq_3 _ _ _ hc, Place.after.eq_3 _ _ _ hc, if_pos hbreak, if_pos hbreak]
    exact ih
  | case4 place c rest hc hbreak ih =>
    rw [Place.after.eq_3 _ _ _ hc, Place.after.eq_3 _ _ _ hc, if_neg hbreak, if_neg hbreak]
    exact ih

theorem Token.placedAt_below (lines : Nat) (place : Place) (kind : TokenKind) (text : String) :
    Token.placedAt (place.below lines) kind text =
      (Token.placedAt place kind text).below lines := by
  simp [Token.placedAt, Place.below, Token.below]

theorem placeTokens_below (lexicon : Lexicon) (lines : Nat) (place : Place) (ls : List Lexeme) :
    placeTokens lexicon (place.below lines) ls =
      (placeTokens lexicon place ls).map (Token.below lines) := by
  induction ls generalizing place with
  | nil => exact congrArg ([·]) (Token.placedAt_below lines place _ _)
  | cons lexeme ls ih =>
    rw [placeTokens, placeTokens, Place.after_below, ih]
    cases lexeme.content? lexicon with
    | none => rfl
    | some content => exact congrArg (· :: _) (Token.placedAt_below lines place _ _)

/-- Two texts are joined by a line feed, and the first ends neither inside an open block comment nor
with a carriage return. The tokens of the joined text are those of the first without its end of the
input, a line end where that stood, and those of the second, as many lines below as the first text
has. -/
theorem tokenize_append_lineFeed (lexicon : Lexicon) (before after : String)
    (hopen : ¬ EndsInComment before) (hreturn : before.toList.getLast? ≠ some '\r') :
    ∃ tokens last, tokenize lexicon before = tokens ++ [last] ∧ last.kind = .endOfInput ∧
      tokenize lexicon (before ++ "\n" ++ after) =
        tokens ++ ⟨.endOfLine, "\n", last.line, last.column⟩ ::
          (tokenize lexicon after).map (Token.below last.line) := by
  have hlexemes : lexemes (before ++ "\n" ++ after).toList =
      lexemes before.toList ++ .lineBreak .lineFeed :: lexemes after.toList := by
    rw [String.toList_append, String.toList_append, List.append_assoc]
    exact lexemes_append_lineFeed after.toList (fun body h ↦ hopen ⟨body, h⟩) hreturn
  have hfit : Fitting (lexemes before.toList ++ .lineBreak .lineFeed :: lexemes after.toList) :=
    hlexemes ▸ fitting_lexemes _
  obtain ⟨tokens, hbefore, hjoined⟩ := placeTokens_append lexicon hfit .start
  rw [flatMap_spelling_lexemes] at hbefore hjoined
  refine ⟨tokens, _, hbefore, rfl, ?_⟩
  rw [tokenize, hlexemes, hjoined, placeTokens]
  -- behind the line feed the first place is that of the second text, moved down
  exact congrArg (tokens ++ _ :: ·) (placeTokens_below lexicon _ .start _)

/-- An open quoted text ends with its line, so the slash at its end and the slash behind the line
feed begin no comment. The line break inside the comment in front of it counts for the second
text. -/
theorem slashes_apart_on_two_lines :
    let before := "1. /* a\nb */ \"go/"
    let after := "/ x"
    ¬ EndsInComment before ∧ before.toList.getLast? ≠ some '\r' ∧
      ∃ tokens last, tokenize .standard before = tokens ++ [last] ∧
        last = ⟨.endOfInput, "EOF", 2, 10⟩ ∧
        tokenize .standard (before ++ "\n" ++ after) =
          tokens ++ [⟨.endOfLine, "\n", 2, 10⟩, ⟨.symbol, "/", 3, 1⟩, ⟨.name, "x", 3, 3⟩,
            ⟨.endOfInput, "EOF", 3, 4⟩] := by
  intro before after
  have hopen : ¬ EndsInComment before := by
    have hquote : (lexemes before.toList).getLast? = some (.quoted ['g', 'o', '/'] false) := by
      decide +kernel
    rintro ⟨body, hbody⟩
    cases hquote.symm.trans hbody
  have hreturn : before.toList.getLast? ≠ some '\r' := by decide
  obtain ⟨tokens, last, hbefore, -, hjoined⟩ :=
    tokenize_append_lineFeed .standard before after hopen hreturn
  have hend : (tokenize .standard before).getLast? = some ⟨.endOfInput, "EOF", 2, 10⟩ := by
    decide +kernel
  rw [hbefore, List.getLast?_concat] at hend
  obtain rfl := Option.some.inj hend
  have hafter : (tokenize .standard after).map (Token.below 2) =
      [⟨.symbol, "/", 3, 1⟩, ⟨.name, "x", 3, 3⟩, ⟨.endOfInput, "EOF", 3, 4⟩] := by
    decide +kernel
  exact ⟨hopen, hreturn, tokens, _, hbefore, rfl, hafter ▸ hjoined⟩

end Bugs
