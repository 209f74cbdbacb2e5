import Bugs.Proofs.RoundTrip
import Bugs.Recognizer

/-!
# Further colors

A project may add color names to the words of the language. Where a text is cut does not depend on
the words (`lexemes` knows no lexicon), and neither does the class of anything but a word. So the
tokens of a text stay what and where they are, and only a name that is one of the new colors becomes
a keyword. A quoted text, a number or a symbol that is spelled like a new color stays what it is,
and so does a word that was a keyword before.

The matchers see the lexicon through the tokens alone. A program without a name among the new colors
is therefore checked as before.

## Main definitions

* `Token.recolored`: a token under the lexicon with further colors.

## Main results

* `placeTokens_withColors`, `Token.recolored_kind_ne_iff`.
* `withColors_changes_added_names`.
-/

namespace Bugs

/-- The token under a lexicon with further colors: a name among them becomes a keyword. -/
def Token.recolored (extra : List String) (t : Token) : Token :=
  if t.kind = .name ∧ t.text ∈ extra then { t with kind := .keyword } else t

/-- The token is a word: a name or a keyword. -/
def Token.IsWord (t : Token) : Prop :=
  t.kind = .name ∨ t.kind = .keyword

section Recolored

variable (extra : List String) (t : Token)

theorem Token.text_recolored : (t.recolored extra).text = t.text := by
  unfold recolored
  split <;> rfl

theorem Token.line_recolored : (t.recolored extra).line = t.line := by
  unfold recolored
  split <;> rfl

theorem Token.column_recolored : (t.recolored extra).column = t.column := by
  unfold recolored
  split <;> rfl

theorem Token.recolored_of_kind_ne (h : t.kind ≠ .name) : t.recolored extra = t :=
  if_neg fun hname ↦ h hname.1

theorem Token.recolored_of_notMem (h : t.text ∉ extra) : t.recolored extra = t :=
  if_neg fun hmem ↦ h hmem.2

end Recolored

variable {lexicon : Lexicon} {extra : List String}

/-! ### Tokens -/

/-- A word is placed under the lexicon with further colors as it was before, and then recolored. -/
theorem Token.placedAt_withColors (lexicon : Lexicon) (extra : List String) (place : Place)
    (word : String) :
    Token.placedAt place ((lexicon.withColors extra).wordKind word) word =
      (Token.placedAt place (lexicon.wordKind word) word).recolored extra := by
  rw [Lexicon.wordKind, Lexicon.wordKind, Lexicon.isKeyword_withColors, List.contains_eq_mem]
  by_cases hkeyword : lexicon.isKeyword word = true
  · rw [if_pos hkeyword, if_pos (by rw [hkeyword, Bool.true_or])]
    exact (recolored_of_kind_ne extra _ (by simp [placedAt])).symm
  · rw [if_neg hkeyword, Bool.eq_false_iff.mpr hkeyword, Bool.false_or]
    by_cases hmem : word ∈ extra
    · rw [if_pos (decide_eq_true hmem), recolored, if_pos ⟨rfl, hmem⟩]
      rfl
    · rw [if_neg (by simpa using hmem)]
      exact (recolored_of_notMem extra _ hmem).symm

/-- The tokens of lexemes under the lexicon with further colors are those under the lexicon itself,
recolored. -/
theorem placeTokens_withColors (lexicon : Lexicon) (extra : List String) (place : Place)
    (ls : List Lexeme) :
    placeTokens (lexicon.withColors extra) place ls =
      (placeTokens lexicon place ls).map (Token.recolored extra) := by
  induction ls generalizing place with
  | nil =>
    rw [placeTokens, placeTokens, List.map_singleton,
      Token.recolored_of_kind_ne extra _ (by simp [Token.inputEnd, Token.placedAt])]
  | cons lexeme ls ih =>
    rw [placeTokens, placeTokens, ih]
    cases lexeme with
    | blank | lineComment | blockComment => rfl
    | word letters =>
      exact congrArg (· :: _) (Token.placedAt_withColors lexicon extra place _)
    | lineBreak | number | quoted | symbol =>
      -- the class of such a lexeme is not the lexicon's to say
      exact congrArg (· :: _) (Token.recolored_of_kind_ne extra _ (by simp [Token.placedAt])).symm

theorem tokenize_withColors (lexicon : Lexicon) (extra : List String) (source : String) :
    tokenize (lexicon.withColors extra) source =
      (tokenize lexicon source).map (Token.recolored extra) :=
  placeTokens_withColors lexicon extra .start _

theorem kind_of_mem_tokenize {source : String} {t : Token} (h : t ∈ tokenize lexicon source)
    (hword : t.IsWord) : t.kind = .name ↔ lexicon.isKeyword t.text = false := by
  rcases admits_or_end_of_mem_tokenize h with hadmits | ⟨hkind, -⟩
  · rcases hword with hname | hkeyword
    · rw [hname] at hadmits
      exact ⟨fun _ ↦ hadmits.2, fun _ ↦ hname⟩
    · rw [hkeyword] at hadmits ⊢
      rw [hadmits.2]
      simp
  · rcases hword with hname | hkeyword
    · cases hname.symm.trans hkind
    · cases hkeyword.symm.trans hkind

/-- A token of a text changes its class exactly if it is a word among the further colors that was no
keyword before. -/
theorem Token.recolored_kind_ne_iff {source : String} {t : Token}
    (h : t ∈ tokenize lexicon source) :
    (t.recolored extra).kind ≠ t.kind ↔
      t.IsWord ∧ t.text ∈ extra ∧ lexicon.isKeyword t.text = false := by
  constructor
  · intro hne
    have hname : t.kind = .name := by
      by_contra hkind
      rw [recolored_of_kind_ne extra t hkind] at hne
      exact hne rfl
    have hmem : t.text ∈ extra := by
      by_contra hmem
      rw [recolored_of_notMem extra t hmem] at hne
      exact hne rfl
    exact ⟨.inl hname, hmem, (kind_of_mem_tokenize h (.inl hname)).mp hname⟩
  · rintro ⟨hword, hmem, hkeyword⟩
    have hname := (kind_of_mem_tokenize h hword).mpr hkeyword
    rw [recolored, if_pos ⟨hname, hmem⟩, hname]
    simp

/-! ### Checks -/

/-- A text without a name among the further colors has the same tape. -/
theorem Tape.ofSource_withColors {source : String}
    (h : ∀ t ∈ tokenize lexicon source, t.kind = .name → t.text ∉ extra) :
    Tape.ofSource (lexicon.withColors extra) source = Tape.ofSource lexicon source := by
  have htokens : tokenize (lexicon.withColors extra) source = tokenize lexicon source := by
    rw [tokenize_withColors]
    refine (List.map_congr_left fun t ht ↦ ?_).trans (List.map_id _)
    by_cases hname : t.kind = .name
    · exact t.recolored_of_notMem extra (h t ht hname)
    · exact t.recolored_of_kind_ne extra hname
  simp only [Tape.ofSource, htokens]

/-- Further colors change the words that were added and nothing else. The tokens keep their texts
and places, and their classes but for the names among the further colors: these become keywords, and
they are the words among those colors which were no keywords before. A program that has none of them
is checked as before, with the same outcome and the same diagnostic. -/
theorem withColors_changes_added_names (lexicon : Lexicon) (extra : List String) (source : String) :
    tokenize (lexicon.withColors extra) source =
        (tokenize lexicon source).map (Token.recolored extra) ∧
      (∀ t ∈ tokenize lexicon source,
        (t.recolored extra).text = t.text ∧ (t.recolored extra).line = t.line ∧
        (t.recolored extra).column = t.column ∧
        ((t.recolored extra).kind ≠ t.kind → t.kind = .name ∧ (t.recolored extra).kind = .keyword) ∧
        ((t.recolored extra).kind ≠ t.kind ↔
          t.IsWord ∧ t.text ∈ extra ∧ lexicon.isKeyword t.text = false)) ∧
      ((∀ t ∈ tokenize lexicon source, t.kind = .name → t.text ∉ extra) →
        ∀ (options : Options) (log : Option TraceLog),
          checkSource (lexicon.withColors extra) options log source =
            checkSource lexicon options log source) := by
  refine ⟨tokenize_withColors lexicon extra source, fun t ht ↦ ⟨t.text_recolored extra,
    t.line_recolored extra, t.column_recolored extra, fun hne ↦ ?_,
    Token.recolored_kind_ne_iff ht⟩, fun h options log ↦ ?_⟩
  · obtain ⟨hword, hmem, hkeyword⟩ := (Token.recolored_kind_ne_iff ht).mp hne
    have hname := (kind_of_mem_tokenize ht hword).mpr hkeyword
    exact ⟨hname, by rw [Token.recolored, if_pos ⟨hname, hmem⟩]⟩
  · rw [checkSource, checkSource, Tape.ofSource_withColors h]

/-- The word `pinkish` is no color, so the program fails. It fails alike where `teal`, which is only
quoted, and the keyword `move` are colors. -/
theorem quoted_color_stays_quoted :
    let source := "Bug A \x7b\ncolor pinkish\nmove \"teal\"\n\x7d\n"
    let options : Options := ⟨true, false⟩
    (∀ t ∈ tokenize .standard source, t.kind = .name → t.text ∉ ["teal", "move", "\"teal\""]) ∧
      ∃ d, d.line = 2 ∧ (checkSource (Lexicon.standard.withColors ["teal", "move", "\"teal\""])
        options none source).1 = .failed d := by
  intro source options
  have hnames : ∀ t ∈ tokenize .standard source, t.kind = .name →
      t.text ∉ ["teal", "move", "\"teal\""] := by
    decide +kernel
  refine ⟨hnames, ⟨.expected .colorName (.quoted "color"), 2, some 7, .name, "pinkish"⟩, rfl, ?_⟩
  rw [(withColors_changes_added_names .standard _ source).2.2 hnames options none]
  decide +kernel

end Bugs
