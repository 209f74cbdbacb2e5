import Bugs.Proofs.Lexing.Fitting
import Bugs.Token.Scan

/-!
# Writing tokens and reading them again

Some lists of classes and texts are those of the tokens of a program text, and it can be told from
the list alone which: an end of the input stands at the end and nowhere else, and in front of it
every class has texts of its own form (`Lexicon.Admits`). Each such list is read back from what it
is written as, with one blank between neighbours and quotation marks around quoted texts. So no two
neighbours grow together when they are written apart by a blank, and none falls apart.

## Main definitions

* `Token.content`: the class and the text of a token.
* `Lexicon.Admits`, `WellFormed`: the contents that a program text may have.
* `written`: a program text with the given contents.

## Main results

* `tokenize_written`.
-/

namespace Bugs

/-- The class and the text of a token, without its place. -/
def Token.content (t : Token) : TokenKind × String :=
  (t.kind, t.text)

/-- The characters form a word: one that may start a word, and then any that may go on with one. -/
def IsWord (letters : List Char) : Prop :=
  ∃ c rest, letters = c :: rest ∧ isWordStart c = true ∧ ∀ d ∈ rest, isWordPart d = true

/-- The characters form a number: digits, at least one, and perhaps a point and further digits. -/
def IsNumber (digits : List Char) : Prop :=
  ∃ whole, whole ≠ [] ∧ (∀ c ∈ whole, c.isDigit = true) ∧
    (digits = whole ∨
      ∃ decimals, (∀ c ∈ decimals, c.isDigit = true) ∧ digits = whole ++ '.' :: decimals)

/-- The texts that a token of a class may have, those of the end of the input apart. -/
def Lexicon.Admits (lexicon : Lexicon) : TokenKind → String → Prop
  | .number, text => IsNumber text.toList
  | .name, text => IsWord text.toList ∧ lexicon.isKeyword text = false
  | .keyword, text => IsWord text.toList ∧ lexicon.isKeyword text = true
  | .symbol, text => ∃ c, text.toList = [c] ∧ isSymbol c = true
  | .endOfLine, text => text = "\n"
  | .quoted, text => ∀ c ∈ text.toList, c ≠ '"' ∧ isBreak c = false
  | .endOfInput, _ | .other _, _ => False

/-- One end of the input stands at the end, and in front of it every class has a text that it
admits. -/
def WellFormed (lexicon : Lexicon) (contents : List (TokenKind × String)) : Prop :=
  ∃ body, contents = body ++ [(.endOfInput, "EOF")] ∧
    ∀ content ∈ body, lexicon.Admits content.1 content.2

/-- The characters that a token is written with: a quoted text gets its quotation marks back. -/
def writtenToken : TokenKind × String → List Char
  | (.quoted, text) => '"' :: text.toList ++ ['"']
  | (_, text) => text.toList

/-- A program text with the given contents: what they are written with, one blank between
neighbours, and nothing for the end of the input. -/
def written (contents : List (TokenKind × String)) : String :=
  String.ofList ([' '].intercalate ((contents.filter (·.1 ≠ .endOfInput)).map writtenToken))

/-! ### The contents of a text -/

variable {lexicon : Lexicon}

/-- The contents of lexemes, and the end of the input, are those of their tokens. -/
theorem map_content_placeTokens (lexicon : Lexicon) (place : Place) (ls : List Lexeme) :
    (placeTokens lexicon place ls).map Token.content =
      ls.filterMap (Lexeme.content? lexicon) ++ [(.endOfInput, "EOF")] := by
  induction ls generalizing place with
  | nil => rfl
  | cons lexeme ls ih =>
    rw [placeTokens, List.filterMap_cons]
    split
    · rename_i kind text hc
      rw [List.map_cons, ih]
      simp only [hc, List.cons_append]
      rfl
    · rename_i hc
      simp only [hc]
      exact ih _

theorem Fitting.exists_fits {ls : List Lexeme} {lexeme : Lexeme} (h : Fitting ls)
    (hmem : lexeme ∈ ls) : ∃ rest, lexeme.Fits rest := by
  induction ls with
  | nil => cases hmem
  | cons first ls ih =>
    rcases List.mem_cons.mp hmem with rfl | hmem
    · exact ⟨_, h.1⟩
    · exact ih h.2 hmem

/-- The lexicon admits the content of every lexeme that may stand in some text. -/
theorem Lexeme.Fits.admits {lexeme : Lexeme} {rest : List Char} (h : lexeme.Fits rest)
    {kind : TokenKind} {text : String} (hc : lexeme.content? lexicon = some (kind, text)) :
    lexicon.Admits kind text := by
  cases h with
  | blank | lineComment | closedComment | openComment => cases hc
  | lineFeed | carriageReturn | pair =>
    cases hc
    rfl
  | whole hne hd =>
    cases hc
    exact ⟨_, hne, hd, .inl String.toList_ofList⟩
  | fraction hne hd hf =>
    cases hc
    exact ⟨_, hne, hd, .inr ⟨_, hf, String.toList_ofList⟩⟩
  | @word c letters _ hstart hpart =>
    cases hc
    have hword : IsWord (String.ofList (c :: letters)).toList :=
      ⟨c, letters, String.toList_ofList, hstart, hpart⟩
    rw [Lexicon.wordKind]
    split
    · rename_i hkeyword
      exact ⟨hword, hkeyword⟩
    · rename_i hkeyword
      exact ⟨hword, by simpa using hkeyword⟩
  | closedQuote hb | openQuote hb =>
    cases hc
    rwa [Lexicon.Admits, String.toList_ofList]
  | symbol h =>
    cases hc
    exact ⟨_, String.toList_ofList, h⟩

/-- The contents of a program text are well formed. -/
theorem wellFormed_tokenize (lexicon : Lexicon) (source : String) :
    WellFormed lexicon ((tokenize lexicon source).map Token.content) := by
  refine ⟨_, map_content_placeTokens lexicon .start _, ?_⟩
  rintro ⟨kind, text⟩ hmem
  obtain ⟨lexeme, hlexeme, hc⟩ := List.mem_filterMap.mp hmem
  obtain ⟨rest, hfits⟩ := (fitting_lexemes source.toList).exists_fits hlexeme
  exact hfits.admits hc

theorem admits_or_end_of_mem_tokenize {source : String} {t : Token}
    (ht : t ∈ tokenize lexicon source) :
    lexicon.Admits t.kind t.text ∨ t.kind = .endOfInput ∧ t.text = "EOF" := by
  obtain ⟨body, hbody, hadmits⟩ := wellFormed_tokenize lexicon source
  have hmem : t.content ∈ body ++ [(.endOfInput, "EOF")] := hbody ▸ List.mem_map_of_mem ht
  rcases List.mem_append.mp hmem with hmem | hend
  · exact .inl (hadmits _ hmem)
  · exact .inr (Prod.mk.inj (List.mem_singleton.mp hend))

/-! ### Reading back -/

/-- An admitted content is that of a lexeme which is written with the same characters and fits in
front of a blank and at the end of a text. -/
theorem Lexicon.Admits.exists_lexeme {kind : TokenKind} {text : String}
    (h : lexicon.Admits kind text) :
    ∃ lexeme : Lexeme, lexeme.content? lexicon = some (kind, text) ∧
      lexeme.spelling = writtenToken (kind, text) ∧
      ∀ rest, (∀ c ∈ rest.head?, c = ' ') → lexeme.Fits rest := by
  have hstop {p : Char → Bool} {b : Bool} {rest : List Char} (hp : p ' ' = b)
      (hrest : ∀ c ∈ rest.head?, c = ' ') : ∀ c ∈ rest.head?, p c = b :=
    fun c hc ↦ hrest c hc ▸ hp
  have hword (hw : IsWord text.toList) (hkind : lexicon.wordKind text = kind) :
      ∃ lexeme : Lexeme, lexeme.content? lexicon = some (kind, text) ∧
        lexeme.spelling = text.toList ∧
        ∀ rest, (∀ c ∈ rest.head?, c = ' ') → lexeme.Fits rest := by
    obtain ⟨c, letters, htext, hstart, hpart⟩ := hw
    refine ⟨.word text.toList, ?_, rfl, fun rest hrest ↦ ?_⟩
    · rw [Lexeme.content?, String.ofList_toList, hkind]
    · rw [htext]
      exact .word hstart hpart (hstop (by decide) hrest)
  cases kind with
  | number =>
    refine ⟨.number text.toList, by rw [Lexeme.content?, String.ofList_toList], rfl,
      fun rest hrest ↦ ?_⟩
    obtain ⟨whole, hne, hd, htext | ⟨decimals, hf, htext⟩⟩ := h
    · rw [htext]
      refine .whole hne hd fun c hc ↦ ?_
      rw [hrest c hc]
      decide
    · rw [htext]
      exact .fraction hne hd hf (hstop (by decide) hrest)
  | name => exact hword h.1 (by rw [wordKind, h.2]; rfl)
  | keyword => exact hword h.1 (by rw [wordKind, h.2]; rfl)
  | symbol =>
    obtain ⟨c, htext, hc⟩ := h
    obtain rfl : text = String.ofList [c] := by rw [← htext, String.ofList_toList]
    refine ⟨.symbol c, rfl, by simp [Lexeme.spelling, writtenToken], fun rest hrest ↦ ?_⟩
    refine .symbol hc fun _ d hd ↦ ?_
    rw [hrest d hd]
    decide
  | endOfLine =>
    obtain rfl : text = "\n" := h
    exact ⟨.lineBreak .lineFeed, rfl, by decide, fun rest _ ↦ .lineFeed⟩
  | quoted =>
    exact ⟨.quoted text.toList true, by rw [Lexeme.content?, String.ofList_toList], rfl,
      fun rest _ ↦ .closedQuote h⟩
  | endOfInput | other => exact h.elim

/-- Admitted contents are those of lexemes that are written with the same characters, one blank
between neighbours. -/
theorem exists_lexemes (contents : List (TokenKind × String))
    (h : ∀ content ∈ contents, lexicon.Admits content.1 content.2) :
    ∃ ls, Fitting ls ∧ ls.flatMap Lexeme.spelling = [' '].intercalate (contents.map writtenToken) ∧
      ls.filterMap (Lexeme.content? lexicon) = contents := by
  induction contents with
  | nil => exact ⟨[], trivial, rfl, rfl⟩
  | cons first contents ih =>
    obtain ⟨hfirst, hcontents⟩ := List.forall_mem_cons.mp h
    obtain ⟨ls, hfit, hspelling, hls⟩ := ih hcontents
    obtain ⟨lexeme, hc, hwritten, hfits⟩ := hfirst.exists_lexeme
    cases contents with
    | nil =>
      refine ⟨[lexeme], ⟨hfits _ (by simp), trivial⟩, ?_, ?_⟩
      · simp [hwritten]
      · simp [hc]
    | cons second contents =>
      -- the blank goes between the two lexemes, where nothing can go on with the first
      have hblank : (Lexeme.blank ' ').Fits (ls.flatMap Lexeme.spelling) := .blank (by decide)
      refine ⟨lexeme :: .blank ' ' :: ls, ⟨hfits _ ?_, hblank, hfit⟩, ?_, ?_⟩
      · rintro c ⟨⟩
        rfl
      · rw [List.flatMap_cons, List.flatMap_cons, hspelling, hwritten, List.map_cons, List.map_cons,
          List.map_cons, List.intercalate_cons_cons, List.append_assoc]
        rfl
      · rw [List.filterMap_cons_some hc, List.filterMap_cons_none rfl, hls]

/-- Well-formed contents are read back from what they are written with. -/
theorem map_content_tokenize_written {contents : List (TokenKind × String)}
    (h : WellFormed lexicon contents) :
    (tokenize lexicon (written contents)).map Token.content = contents := by
  obtain ⟨body, rfl, hbody⟩ := h
  obtain ⟨ls, hfit, hspelling, hls⟩ := exists_lexemes body hbody
  have hfilter : (body ++ [(TokenKind.endOfInput, "EOF")]).filter (·.1 ≠ .endOfInput) = body := by
    have hkind : body.filter (·.1 ≠ .endOfInput) = body := by
      refine List.filter_eq_self.mpr fun content hmem ↦ decide_eq_true fun hkind ↦ ?_
      have hadmits := hbody content hmem
      rw [hkind] at hadmits
      exact hadmits
    rw [List.filter_append, hkind]
    exact List.append_nil body
  rw [tokenize, written, hfilter, ← hspelling, String.toList_ofList, lexemes_flatMap_spelling hfit,
    map_content_placeTokens, hls]

/-- The contents of program texts are the well-formed ones: those of any text are well formed, and
well-formed contents are read back from what they are written with. So writing the tokens of a
text and reading them again changes nothing. -/
theorem tokenize_written (lexicon : Lexicon) :
    (∀ source, WellFormed lexicon ((tokenize lexicon source).map Token.content)) ∧
    (∀ contents, WellFormed lexicon contents →
      (tokenize lexicon (written contents)).map Token.content = contents) ∧
    ∀ source,
      (tokenize lexicon (written ((tokenize lexicon source).map Token.content))).map Token.content =
        (tokenize lexicon source).map Token.content :=
  ⟨wellFormed_tokenize lexicon, fun _ h ↦ map_content_tokenize_written h,
    fun source ↦ map_content_tokenize_written (wellFormed_tokenize lexicon source)⟩

/-- Slashes, points and digits that would grow together without the blanks stay apart, and what
looks like a comment between quotation marks stays a quoted text. -/
theorem slashes_stay_apart :
    let contents : List (TokenKind × String) :=
      [(.symbol, "/"), (.symbol, "/"), (.symbol, "*"), (.number, "1."), (.symbol, "."),
        (.name, "moves"), (.number, "7"), (.keyword, "move"), (.quoted, "/* //"),
        (.endOfLine, "\n"), (.endOfInput, "EOF")]
    WellFormed .standard contents ∧
      written contents = "/ / * 1. . moves 7 move \"/* //\" \n" ∧
      (tokenize .standard (written contents)).map Token.content = contents := by
  intro contents
  have hformed : WellFormed .standard contents := by
    refine ⟨contents.dropLast, rfl, ?_⟩
    simp only [contents, List.dropLast_cons_cons, List.dropLast_singleton, List.forall_mem_cons,
      List.not_mem_nil, false_imp_iff, implies_true, and_true]
    refine ⟨⟨'/', rfl, rfl⟩, ⟨'/', rfl, rfl⟩, ⟨'*', rfl, rfl⟩, ?_, ⟨'.', rfl, rfl⟩, ?_, ?_, ?_, ?_,
      rfl⟩
    · exact ⟨['1'], by simp, by simp, .inr ⟨[], by simp, rfl⟩⟩
    · exact ⟨⟨'m', ['o', 'v', 'e', 's'], rfl, by decide, List.all_eq_true.mp (by decide)⟩,
        by decide +kernel⟩
    · exact ⟨['7'], by simp, by simp, .inl rfl⟩
    · exact ⟨⟨'m', ['o', 'v', 'e'], rfl, by decide, List.all_eq_true.mp (by decide)⟩,
        by decide +kernel⟩
    · simp [Lexicon.Admits, isBreak]
  exact ⟨hformed, by decide +kernel, (tokenize_written .standard).2.1 contents hformed⟩

end Bugs
