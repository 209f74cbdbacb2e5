import Bugs.Proofs.Lexing.Position

/-!
# Tokens account for the whole text

The line and the column of a token give the offset at which it starts, and at that offset the text
holds the characters of the token. What lies in front of the token, behind the one before it, is
blanks and comments and nothing else. So the tokens of a text account for each of its characters,
and their offsets ascend up to the length of the text, where the end of the input stands.

## Main definitions

* `Skipped`: blanks and comments in front of a text.
* `Token.Spelled`: the characters of a token in front of a text.
* `Accounts`: the tokens at their offsets make up a text together with what is skipped.

## Main results

* `tokens_account_for_source`.
-/

namespace Bugs

/-- The characters are blanks, line comments and block comments in front of a text. A line comment
runs to the end of its line, a block comment to the first `*/` or else to the end of the text. -/
inductive Skipped : List Char → List Char → Prop
  | nothing {after : List Char} : Skipped [] after
  | blank {c : Char} {gap after : List Char} (h : isBlank c = true) (hs : Skipped gap after) :
      Skipped (c :: gap) after
  | lineComment {body gap after : List Char} (hb : ∀ c ∈ body, isBreak c = false)
      (hr : LineEnds (gap ++ after)) (hs : Skipped gap after) :
      Skipped ('/' :: '/' :: body ++ gap) after
  | blockComment {body gap after : List Char} (hb : ¬ ['*', '/'] <:+: body ++ ['*'])
      (hs : Skipped gap after) : Skipped ('/' :: '*' :: body ++ ['*', '/'] ++ gap) after
  | openComment {body : List Char} (hb : ¬ ['*', '/'] <:+: body) :
      Skipped ('/' :: '*' :: body) []

/-- The characters are those of the token in front of a text: its own text, a line break, or its
text between quotation marks, of which the second may be missing where the line ends. -/
def Token.Spelled (t : Token) (spelling after : List Char) : Prop :=
  match t.kind with
  | .number | .name | .keyword | .symbol => spelling = t.text.toList
  | .endOfLine => spelling = ['\n'] ∨ spelling = ['\r', '\n'] ∨
      spelling = ['\r'] ∧ after.head? ≠ some '\n'
  | .quoted => spelling = '"' :: t.text.toList ++ ['"'] ∨
      spelling = '"' :: t.text.toList ∧ LineEnds after
  | .endOfInput | .other _ => False

/-- Behind the characters that were read, the tokens at the offsets make up the rest of the text,
together with what is skipped in front of each of them. The last one marks the end. -/
inductive Accounts : List Char → List Char → List Token → List Nat → Prop
  | last {read gap : List Char} {t : Token} (hgap : Skipped gap []) (ht : t.kind = .endOfInput) :
      Accounts read gap [t] [(read ++ gap).length]
  | token {read gap spelling rest : List Char} {t : Token} {ts : List Token} {offsets : List Nat}
      (hgap : Skipped gap (spelling ++ rest)) (hne : spelling ≠ []) (ht : t.Spelled spelling rest)
      (hs : Accounts (read ++ gap ++ spelling) rest ts offsets) :
      Accounts read (gap ++ (spelling ++ rest)) (t :: ts) ((read ++ gap).length :: offsets)

/-! ### What lexemes are skipped or become tokens -/

variable {lexicon : Lexicon} {lexeme : Lexeme}

/-- A lexeme without a token is skipped. -/
theorem Lexeme.Fits.skipped {gap after : List Char} (h : lexeme.Fits (gap ++ after))
    (hc : lexeme.content? lexicon = none) (hs : Skipped gap after) :
    Skipped (lexeme.spelling ++ gap) after := by
  generalize hrest : gap ++ after = rest at h
  cases h with
  | blank h => exact .blank h hs
  | lineComment hb hr => exact .lineComment hb (hrest ▸ hr) hs
  | closedComment hb => exact .blockComment hb hs
  | openComment hb =>
    obtain ⟨rfl, rfl⟩ := List.append_eq_nil_iff.mp hrest
    simpa [spelling] using Skipped.openComment hb
  | lineFeed | carriageReturn | pair | whole | fraction | word | closedQuote | openQuote
  | symbol => cases hc

/-- A lexeme with a token spells it. -/
theorem Lexeme.Fits.spelled {rest : List Char} {kind : TokenKind} {text : String}
    (h : lexeme.Fits rest) (hc : lexeme.content? lexicon = some (kind, text)) (place : Place) :
    (Token.placedAt place kind text).Spelled lexeme.spelling rest := by
  cases h with
  | blank | lineComment | closedComment | openComment => cases hc
  | lineFeed =>
    cases hc
    exact .inl rfl
  | carriageReturn hr =>
    cases hc
    exact .inr (.inr ⟨rfl, hr⟩)
  | pair =>
    cases hc
    exact .inr (.inl rfl)
  | whole | fraction | symbol =>
    cases hc
    exact (String.toList_ofList).symm
  | @word c letters =>
    cases hc
    simp only [Token.Spelled, Token.placedAt, Lexicon.wordKind]
    cases lexicon.isKeyword (String.ofList (c :: letters)) with
    | true | false => exact (String.toList_ofList).symm
  | closedQuote =>
    cases hc
    exact .inl (by simp [spelling, Token.placedAt])
  | openQuote _ hr =>
    cases hc
    exact .inr ⟨by simp [spelling, Token.placedAt], hr⟩

namespace Accounts

variable {read rest : List Char} {ts : List Token} {offsets : List Nat}

/-- What is skipped in front of a token belongs to the gap in front of it. -/
theorem skip (hf : lexeme.Fits rest) (hc : lexeme.content? lexicon = none)
    (h : Accounts (read ++ lexeme.spelling) rest ts offsets) :
    Accounts read (lexeme.spelling ++ rest) ts offsets := by
  cases h with
  | @last _ gap _ hgap ht =>
    rw [List.append_assoc]
    exact .last (Lexeme.Fits.skipped (by simpa using hf) hc hgap) ht
  | @token _ gap spelling rest _ _ _ hgap hne ht hs =>
    rw [List.append_assoc, ← List.append_assoc lexeme.spelling]
    refine .token (hf.skipped hc hgap) hne ht ?_
    simpa only [List.append_assoc] using hs

theorem le_of_mem (h : Accounts read rest ts offsets) :
    ∀ offset ∈ offsets, read.length ≤ offset := by
  induction h with
  | last => simp
  | token _ _ _ _ ih =>
    refine List.forall_mem_cons.mpr ⟨by simp, fun offset ho ↦ ?_⟩
    have hle := ih offset ho
    simp only [List.length_append] at hle
    omega

theorem pairwise_lt (h : Accounts read rest ts offsets) : offsets.Pairwise (· < ·) := by
  induction h with
  | last => simp
  | @token read gap spelling _ _ _ _ _ hne _ hs ih =>
    refine List.pairwise_cons.mpr ⟨fun offset ho ↦ ?_, ih⟩
    have hle := hs.le_of_mem offset ho
    have hpos := List.length_pos_iff.mpr hne
    rw [List.length_append] at hle
    omega

theorem getLast?_eq (h : Accounts read rest ts offsets) :
    offsets.getLast? = some (read ++ rest).length := by
  induction h with
  | last => rfl
  | @token read gap spelling rest _ _ offsets _ _ _ hs ih =>
    rw [List.append_assoc, List.append_assoc] at ih
    rw [List.getLast?_cons, ih]
    rfl

end Accounts

/-! ### The tokens of a text -/

/-- Lexemes that follow what was read account for the rest of the text, and their tokens start where
they tell. -/
theorem placeTokens_accounts (lexicon : Lexicon) {ls : List Lexeme} (hfit : Fitting ls)
    (read : List Char) (hseam : Seam read (ls.flatMap Lexeme.spelling)) :
    ∃ offsets, Accounts read (ls.flatMap Lexeme.spelling)
        (placeTokens lexicon (Place.start.after read) ls) offsets ∧
      List.Forall₂ (Token.StartsAt (read ++ ls.flatMap Lexeme.spelling))
        (placeTokens lexicon (Place.start.after read) ls) offsets := by
  induction ls generalizing read with
  | nil =>
    refine ⟨[(read ++ []).length], .last .nothing rfl, .cons ?_ .nil⟩
    have hstart := Token.startsAt_placedAt hseam .endOfInput "EOF"
    rwa [List.flatMap_nil, List.append_nil] at *
  | cons lexeme ls ih =>
    have hne := hfit.1.spelling_ne_nil
    rw [List.flatMap_cons] at hseam ⊢
    obtain ⟨offsets, haccounts, hstarts⟩ :=
      ih hfit.2 (read ++ lexeme.spelling) (hfit.1.seam.append_left hne)
    rw [Place.after_append hseam.of_append] at haccounts hstarts
    rw [placeTokens]
    split
    · rename_i kind text hc
      refine ⟨(read ++ []).length :: offsets, ?_, .cons ?_ ?_⟩
      · rw [← List.nil_append (lexeme.spelling ++ _)]
        refine .token .nothing hne (hfit.1.spelled hc _) ?_
        rwa [List.append_nil]
      · rw [List.append_nil]
        exact Token.startsAt_placedAt hseam kind text
      · rwa [← List.append_assoc]
    · rename_i hc
      refine ⟨offsets, haccounts.skip hfit.1 hc, ?_⟩
      rwa [← List.append_assoc]

/-- The tokens of a text start at ascending offsets, the end of the input at the length of the text,
and at these offsets they make up the text together with blanks and comments. -/
theorem tokens_account_for_source (lexicon : Lexicon) (source : String) :
    ∃ offsets : List Nat,
      List.Forall₂ (Token.StartsAt source.toList) (tokenize lexicon source) offsets ∧
      offsets.Pairwise (· < ·) ∧ offsets.getLast? = some source.toList.length ∧
      Accounts [] source.toList (tokenize lexicon source) offsets := by
  obtain ⟨offsets, haccounts, hstarts⟩ := placeTokens_accounts lexicon
    (fitting_lexemes source.toList) [] (.of_notMem List.not_mem_nil _)
  rw [flatMap_spelling_lexemes, List.nil_append] at *
  exact ⟨offsets, hstarts, haccounts.pairwise_lt, haccounts.getLast?_eq, haccounts⟩

end Bugs
