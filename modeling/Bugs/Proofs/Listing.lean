import Bugs.CommandLine
import Bugs.Proofs.Excerpt
import Bugs.Proofs.RoundTrip

/-!
# Listings lose nothing

The listing of the tokens of a text has no escapes but one: the text of a line end is shown as a
backslash and an n. All other texts stand as they are, with tabs, backslashes or control characters
in them. Even so a listing tells the tokens that it was made from, whatever the text and the
lexicon.

A line of a listing is read from the left: the line of the token up to the first colon, its column
up to the first tab, its class up to the second, and then its text with whatever tabs it has. Only a
line end has a line feed for its text (`Token.Legible`), so a line feed in a listing is the end of
one of its lines, and what looks like a line end in a quoted text is told apart by the class.

## Main definitions

* `Token.Legible`: what the tokens of all texts have and a listing relies on.

## Main results

* `Token.legible_of_mem_tokenize`, `Token.listing_injOn`.
* `listing_determines_tokens`.
-/

namespace Bugs

variable {lexicon : Lexicon} {source : String} {t t' : Token}

/-! ### Tokens of a text -/

theorem mem_writtenToken {kind : TokenKind} {text : String} {c : Char} (hc : c ∈ text.toList) :
    c ∈ writtenToken (kind, text) := by
  cases kind with
  | quoted => exact List.mem_cons_of_mem _ (List.mem_append_left _ hc)
  | _ => exact hc

theorem Lexicon.Admits.isBreak_eq_false {kind : TokenKind} {text : String}
    (h : lexicon.Admits kind text) (hkind : kind ≠ .endOfLine) :
    ∀ c ∈ text.toList, isBreak c = false := by
  obtain ⟨lexeme, hcontent, hspelling, hfits⟩ := h.exists_lexeme
  have hline : ∀ form, lexeme ≠ .lineBreak form := by
    rintro form rfl
    cases hcontent
    exact hkind rfl
  have hcomment : ∀ body closed, lexeme ≠ .blockComment body closed := by
    rintro body closed rfl
    cases hcontent
  have hbreaks := (hfits [] (by simp)).isBreak_eq_false hline hcomment
  rw [hspelling] at hbreaks
  exact fun c hc ↦ hbreaks c (mem_writtenToken hc)

/-- What a listing relies on: the place is given by two numbers without a sign, the class is a known
one, and a line feed is the text of line ends and stands in no other text. -/
structure Token.Legible (t : Token) : Prop where
  line_nonneg : 0 ≤ t.line
  column_nonneg : 0 ≤ t.column
  known : ∀ label, t.kind ≠ .other label
  text_eq : t.kind = .endOfLine → t.text = "\n"
  notMem_text : t.kind ≠ .endOfLine → '\n' ∉ t.text.toList

/-- The tokens of a text are legible. -/
theorem Token.legible_of_mem_tokenize (ht : t ∈ tokenize lexicon source) : t.Legible := by
  obtain ⟨n, column, -, hline, hcolumn, -⟩ := exists_line_of_mem_tokenize ht
  have hplace : 0 ≤ t.line ∧ 0 ≤ t.column := by omega
  rcases admits_or_end_of_mem_tokenize ht with hadmits | ⟨hkind, htext⟩
  · refine ⟨hplace.1, hplace.2, fun label hkind ↦ ?_, fun hkind ↦ ?_, fun hkind hfeed ↦ ?_⟩
    · rw [hkind] at hadmits
      exact hadmits
    · rw [hkind] at hadmits
      exact hadmits
    · cases hadmits.isBreak_eq_false hkind '\n' hfeed
  · refine ⟨hplace.1, hplace.2, ?_, ?_, fun _ ↦ ?_⟩
    · simp [hkind]
    · simp [hkind]
    · rw [htext]
      decide

/-! ### The parts of a line -/

/-- Where a mark stands behind two texts and in neither of them, the texts and what follows the mark
are equal part by part. -/
theorem parts_eq_of_mark {mark : Char} {text text' rest rest' : List Char}
    (h : text ++ mark :: rest = text' ++ mark :: rest') (hmark : mark ∉ text)
    (hmark' : mark ∉ text') : text = text' ∧ rest = rest' := by
  induction text generalizing text' with
  | nil =>
    cases text' with
    | nil => exact ⟨rfl, (List.cons.inj h).2⟩
    | cons c text' => exact absurd (List.mem_cons.mpr (.inl (List.cons.inj h).1)) hmark'
  | cons c text ih =>
    cases text' with
    | nil => exact absurd (List.mem_cons.mpr (.inl (List.cons.inj h).1.symm)) hmark
    | cons d text' =>
      obtain ⟨rfl, htail⟩ := List.cons.inj h
      obtain ⟨rfl, hrest⟩ := ih htail (fun hmem ↦ hmark (List.mem_cons_of_mem _ hmem))
        fun hmem ↦ hmark' (List.mem_cons_of_mem _ hmem)
      exact ⟨rfl, hrest⟩

theorem toList_toString_of_nonneg {n : Int} (h : 0 ≤ n) :
    (toString n).toList = Nat.toDigits 10 n.toNat := by
  rw [Int.toString_eq_repr, Int.repr_eq_if, if_pos h, Nat.toList_repr]

theorem notMem_toDigits {c : Char} (hc : c.isDigit = false) (n : Nat) : c ∉ Nat.toDigits 10 n := by
  intro hmem
  have hdigit := Nat.isDigit_of_mem_toDigits (by decide) (by decide) hmem
  rw [hc] at hdigit
  cases hdigit

theorem eq_of_toDigits_eq {m n : Int} (hm : 0 ≤ m) (hn : 0 ≤ n)
    (h : Nat.toDigits 10 m.toNat = Nat.toDigits 10 n.toNat) : m = n := by
  have hvalue := congrArg (Nat.ofDigitChars 10 · 0) h
  simp only [Nat.ofDigitChars_ten_toDigits] at hvalue
  omega

theorem TokenKind.ofLabel_label {kind : TokenKind} (h : ∀ label, kind ≠ .other label) :
    ofLabel kind.label = kind := by
  cases kind with
  | other label => exact absurd rfl (h label)
  | _ => decide +kernel

theorem TokenKind.notMem_label {kind : TokenKind} (h : ∀ label, kind ≠ .other label) :
    '\t' ∉ kind.label.toList ∧ '\n' ∉ kind.label.toList := by
  cases kind with
  | other label => exact absurd rfl (h label)
  | _ => decide +kernel

namespace Token

/-- A token other than a line end shows its text as it is. -/
theorem Legible.shownText_eq (h : t.Legible) (hkind : t.kind ≠ .endOfLine) :
    t.shownText = t.text := by
  refine if_neg fun htext ↦ h.notMem_text hkind ?_
  rw [htext]
  decide

theorem Legible.notMem_shownText (h : t.Legible) : '\n' ∉ t.shownText.toList := by
  by_cases hkind : t.kind = .endOfLine
  · rw [shownText, if_pos (h.text_eq hkind)]
    decide
  · rw [h.shownText_eq hkind]
    exact h.notMem_text hkind

theorem Legible.text_eq_of_shownText_eq (h : t.Legible) (h' : t'.Legible)
    (hkind : t.kind = t'.kind) (hshown : t.shownText = t'.shownText) : t.text = t'.text := by
  by_cases hend : t.kind = .endOfLine
  · rw [h.text_eq hend, h'.text_eq (hkind ▸ hend)]
  · rwa [h.shownText_eq hend, h'.shownText_eq (hkind ▸ hend)] at hshown

theorem Legible.toList_listingLine (h : t.Legible) :
    t.listingLine.toList = Nat.toDigits 10 t.line.toNat ++ ':' ::
      (Nat.toDigits 10 t.column.toNat ++ '\t' ::
        (t.kind.label.toList ++ '\t' :: t.shownText.toList)) := by
  simp only [listingLine, String.toList_append, toList_toString_of_nonneg h.line_nonneg,
    toList_toString_of_nonneg h.column_nonneg, List.append_assoc]
  rfl

theorem Legible.notMem_listingLine (h : t.Legible) : '\n' ∉ t.listingLine.toList := by
  have hdigits := notMem_toDigits (c := '\n') (by decide)
  simp [h.toList_listingLine, hdigits, (TokenKind.notMem_label h.known).2, h.notMem_shownText]

/-- A legible token is told by its line in a listing. -/
theorem Legible.eq_of_listingLine_eq (h : t.Legible) (h' : t'.Legible)
    (hline : t.listingLine.toList = t'.listingLine.toList) : t = t' := by
  rw [h.toList_listingLine, h'.toList_listingLine] at hline
  have hcolon := notMem_toDigits (c := ':') (by decide)
  have htab := notMem_toDigits (c := '\t') (by decide)
  obtain ⟨hlines, hrest⟩ := parts_eq_of_mark hline (hcolon _) (hcolon _)
  obtain ⟨hcolumns, hrest⟩ := parts_eq_of_mark hrest (htab _) (htab _)
  obtain ⟨hlabels, hshown⟩ := parts_eq_of_mark hrest (TokenKind.notMem_label h.known).1
    (TokenKind.notMem_label h'.known).1
  have hkind : t.kind = t'.kind := by
    rw [← TokenKind.ofLabel_label h.known, ← TokenKind.ofLabel_label h'.known,
      String.toList_inj.mp hlabels]
  have htext := h.text_eq_of_shownText_eq h' hkind (String.toList_inj.mp hshown)
  exact (Token.mk.injEq ..).mpr ⟨hkind, htext,
    eq_of_toDigits_eq h.line_nonneg h'.line_nonneg hlines,
    eq_of_toDigits_eq h.column_nonneg h'.column_nonneg hcolumns⟩

/-! ### Listings -/

theorem toList_listing_cons (t : Token) (tokens : List Token) :
    (listing (t :: tokens)).toList = t.listingLine.toList ++ '\n' :: (listing tokens).toList := by
  simp [listing]

/-- Legible tokens are told by their listing. -/
theorem listing_injOn {tokens tokens' : List Token} (h : ∀ t ∈ tokens, t.Legible)
    (h' : ∀ t ∈ tokens', t.Legible) (heq : listing tokens = listing tokens') :
    tokens = tokens' := by
  rw [← String.toList_inj] at heq
  induction tokens generalizing tokens' with
  | nil =>
    cases tokens' with
    | nil => rfl
    | cons t' tokens' =>
      rw [toList_listing_cons] at heq
      simp [listing] at heq
  | cons t tokens ih =>
    obtain ⟨ht, htokens⟩ := List.forall_mem_cons.mp h
    cases tokens' with
    | nil =>
      rw [toList_listing_cons] at heq
      simp [listing] at heq
    | cons t' tokens' =>
      obtain ⟨ht', htokens'⟩ := List.forall_mem_cons.mp h'
      rw [toList_listing_cons, toList_listing_cons] at heq
      obtain ⟨hline, hrest⟩ :=
        parts_eq_of_mark heq ht.notMem_listingLine ht'.notMem_listingLine
      rw [ht.eq_of_listingLine_eq ht' hline, ih htokens htokens' hrest]

/-- Two texts are listed alike exactly if they have the same tokens. -/
theorem listing_tokenize_inj {lexicon lexicon' : Lexicon} {source source' : String} :
    listing (tokenize lexicon source) = listing (tokenize lexicon' source') ↔
      tokenize lexicon source = tokenize lexicon' source' :=
  ⟨listing_injOn (fun _ ↦ legible_of_mem_tokenize) fun _ ↦ legible_of_mem_tokenize,
    congrArg listing⟩

end Token

/-- Two texts are listed alike exactly if their tokens are equal in class, text, line and column,
whatever the texts and the lexicons. So the text that the command prints for a program tells all of
its tokens. -/
theorem listing_determines_tokens (source source' : String) :
    (∀ lexicon lexicon' : Lexicon,
      Token.listing (tokenize lexicon source) = Token.listing (tokenize lexicon' source') ↔
        tokenize lexicon source = tokenize lexicon' source') ∧
    ∀ (path path' : String) (settings settings' : Settings),
      ((CommandLine.TokensCall.mk path false).conclude source settings).output =
          ((CommandLine.TokensCall.mk path' false).conclude source' settings').output ↔
        tokenize settings.lexicon source = tokenize settings'.lexicon source' :=
  ⟨fun _ _ ↦ Token.listing_tokenize_inj, fun _ _ _ _ ↦ Token.listing_tokenize_inj⟩

/-- A quoted text with a backslash, an n and a tab is told from the line end behind it. -/
example : Token.listing (tokenize .standard "\"\\n\t\"\n") =
    "1:1\tQUOTED\t\\n\t\n1:6\tEOL\t\\n\n2:1\tEOF\tEOF\n" := by
  decide +kernel

end Bugs
