import Bugs.Lexeme
import Mathlib.Data.List.Infix
import Mathlib.Data.List.TakeWhile

/-!
# The cut into lexemes is the only one

The lexical grammar says which lexemes there are and what may follow each of them: a comment that
runs to the end of its line is followed by a line break, a word by no character that would go on
with it, a slash that stands for itself by no second slash and no asterisk. `Lexeme.Fits` states
this without a word on how a text is scanned. The lexeme that is cut off a text is the one lexeme
that fits there (`Lexeme.fits_read`, `Lexeme.read_of_fits`), so the lexemes of a text are the one
list of lexemes that spells the text and in which each lexeme fits in front of the following ones
(`lexemes_eq_iff`).

## Main definitions

* `isSymbol`: the characters that stand for themselves.
* `Lexeme.Fits`: the lexeme may stand in front of the text.
* `Fitting`: every lexeme of a list may stand in front of the following ones.

## Main results

* `Lexeme.fits_read`, `Lexeme.read_of_fits`, `lexemes_eq_iff`.
-/

namespace Bugs

/-- The characters that are symbols of their own. -/
def isSymbol (c : Char) : Bool :=
  !isBreak c && !isBlank c && !c.isDigit && !isWordStart c && c ≠ '"'

/-- The characters that may end a line comment or an open quoted text: a line break or nothing. -/
def LineEnds (rest : List Char) : Prop :=
  ∀ c ∈ rest.head?, isBreak c = true

/-- The lexeme is one of the language, and it may stand in front of the text. -/
inductive Lexeme.Fits : Lexeme → List Char → Prop
  | blank {c : Char} {rest : List Char} (h : isBlank c = true) : Fits (.blank c) rest
  | lineComment {body rest : List Char} (hb : ∀ c ∈ body, isBreak c = false)
      (hr : LineEnds rest) : Fits (.lineComment body) rest
  | closedComment {body rest : List Char} (hb : ¬ ['*', '/'] <:+: body ++ ['*']) :
      Fits (.blockComment body true) rest
  | openComment {body : List Char} (hb : ¬ ['*', '/'] <:+: body) :
      Fits (.blockComment body false) []
  | lineFeed {rest : List Char} : Fits (.lineBreak .lineFeed) rest
  | carriageReturn {rest : List Char} (hr : rest.head? ≠ some '\n') :
      Fits (.lineBreak .carriageReturn) rest
  | pair {rest : List Char} : Fits (.lineBreak .pair) rest
  | whole {digits rest : List Char} (hne : digits ≠ []) (hd : ∀ c ∈ digits, c.isDigit = true)
      (hr : ∀ c ∈ rest.head?, c.isDigit = false ∧ c ≠ '.') : Fits (.number digits) rest
  | fraction {digits decimals rest : List Char} (hne : digits ≠ [])
      (hd : ∀ c ∈ digits, c.isDigit = true) (hf : ∀ c ∈ decimals, c.isDigit = true)
      (hr : ∀ c ∈ rest.head?, c.isDigit = false) :
      Fits (.number (digits ++ '.' :: decimals)) rest
  | word {c : Char} {letters rest : List Char} (hc : isWordStart c = true)
      (hl : ∀ d ∈ letters, isWordPart d = true) (hr : ∀ d ∈ rest.head?, isWordPart d = false) :
      Fits (.word (c :: letters)) rest
  | closedQuote {body rest : List Char} (hb : ∀ c ∈ body, c ≠ '"' ∧ isBreak c = false) :
      Fits (.quoted body true) rest
  | openQuote {body rest : List Char} (hb : ∀ c ∈ body, c ≠ '"' ∧ isBreak c = false)
      (hr : LineEnds rest) : Fits (.quoted body false) rest
  | symbol {c : Char} {rest : List Char} (h : isSymbol c = true)
      (hr : c = '/' → ∀ d ∈ rest.head?, d ≠ '/' ∧ d ≠ '*') : Fits (.symbol c) rest

/-- Each lexeme of the list may stand in front of what the following ones spell. -/
def Fitting : List Lexeme → Prop
  | [] => True
  | lexeme :: rest => lexeme.Fits (rest.flatMap Lexeme.spelling) ∧ Fitting rest

/-! ### Characters of a class -/

theorem toNat_of_isBlank {c : Char} (h : isBlank c = true) : c.toNat ≤ 32 := by
  simp only [isBlank, Bool.and_eq_true, decide_eq_true_eq] at h
  exact h.1

theorem toNat_of_isBreak {c : Char} (h : isBreak c = true) : c.toNat ≤ 32 := by
  simp only [isBreak, Bool.or_eq_true, decide_eq_true_eq] at h
  rcases h with rfl | rfl <;> decide

theorem isBreak_eq_false {c : Char} (h : 32 < c.toNat) : isBreak c = false :=
  Bool.eq_false_iff.mpr fun hbreak ↦ Nat.not_lt.mpr (toNat_of_isBreak hbreak) h

theorem isBlank_eq_false {c : Char} (h : 32 < c.toNat) : isBlank c = false :=
  Bool.eq_false_iff.mpr fun hblank ↦ Nat.not_lt.mpr (toNat_of_isBlank hblank) h

theorem toNat_of_isDigit {c : Char} (h : c.isDigit = true) : 48 ≤ c.toNat ∧ c.toNat ≤ 57 := by
  simpa [Char.isDigit, UInt32.le_iff_toNat_le] using h

theorem toNat_of_isWordStart {c : Char} (h : isWordStart c = true) : 65 ≤ c.toNat := by
  rcases Bool.or_eq_true_iff.mp h with halpha | hcode
  · rcases Bool.or_eq_true_iff.mp halpha with hupper | hlower
    · exact UInt32.le_iff_toNat_le.mp (of_decide_eq_true hupper).1
    · refine Nat.le_trans (by decide : 65 ≤ 'a'.toNat) ?_
      exact UInt32.le_iff_toNat_le.mp (of_decide_eq_true (Bool.and_eq_true_iff.mp hlower).1)
  · exact Nat.le_trans (by decide) (of_decide_eq_true hcode)

theorem toNat_of_isWordPart {c : Char} (h : isWordPart c = true) : 48 ≤ c.toNat := by
  simp only [isWordPart, Bool.or_eq_true] at h
  rcases h with h | h
  · exact Nat.le_trans (by decide) (toNat_of_isWordStart h)
  · exact (toNat_of_isDigit h).1

/-! ### Runs of characters of one class -/

section Classes

variable {p : Char → Bool} {body rest : List Char}

theorem takeWhile_append_of_stop (hb : ∀ c ∈ body, p c = true)
    (hr : ∀ c ∈ rest.head?, p c = false) : (body ++ rest).takeWhile p = body := by
  rw [List.takeWhile_append_of_pos hb]
  cases rest with
  | nil => simp
  | cons c rest => simp [hr c rfl]

theorem dropWhile_append_of_stop (hb : ∀ c ∈ body, p c = true)
    (hr : ∀ c ∈ rest.head?, p c = false) : (body ++ rest).dropWhile p = rest := by
  rw [List.dropWhile_append_of_pos hb]
  cases rest with
  | nil => rfl
  | cons c rest => simp [hr c rfl]

theorem stop_of_dropWhile (p : Char → Bool) (source : List Char) :
    ∀ c ∈ (source.dropWhile p).head?, p c = false := by
  intro c hc
  have hstop := List.head?_dropWhile_not p source
  rw [Option.mem_def] at hc
  rwa [hc] at hstop

end Classes

/-! ### Comments, quoted texts and numbers -/

theorem close_infix_cons {c : Char} {l : List Char} :
    ['*', '/'] <:+: c :: l ↔ (c = '*' ∧ l.head? = some '/') ∨ ['*', '/'] <:+: l := by
  rw [List.infix_cons_iff, List.cons_prefix_cons, eq_comm (a := '*')]
  cases l with
  | nil => simp
  | cons d l =>
    simp only [List.cons_prefix_cons, List.nil_prefix, and_true, List.head?_cons, Option.some_inj,
      eq_comm]

/-- In front of the first `*/` there is none. -/
theorem close_notInfix_of_some {source body after : List Char}
    (h : splitBlockComment source = (body, some after)) : ¬ ['*', '/'] <:+: body ++ ['*'] := by
  induction source using splitBlockComment.induct generalizing body with
  | case1 => cases h
  | case2 rest =>
    cases h
    decide
  | case3 c rest hc ih =>
    rw [splitBlockComment.eq_3 c rest hc, Prod.mk.injEq] at h
    obtain ⟨rfl, hafter⟩ := h
    have hrest := splitBlockComment_append rest
    rw [hafter] at hrest
    rw [List.cons_append, close_infix_cons]
    rintro (⟨rfl, hhead⟩ | hclose)
    · -- the body goes on as the text does, so the comment would have been closed here
      refine hc rest.tail rfl ?_
      rw [← hrest]
      cases hbody : (splitBlockComment rest).1 with
      | nil => simp [hbody] at hhead
      | cons d body => simpa [hbody] using hhead
    · exact ih (Prod.ext rfl hafter) hclose

theorem close_notInfix_of_none {source body : List Char}
    (h : splitBlockComment source = (body, none)) : ¬ ['*', '/'] <:+: body := by
  have hsource := splitBlockComment_append source
  rw [h, List.append_nil] at hsource
  subst hsource
  induction body using splitBlockComment.induct with
  | case1 => decide
  | case2 rest => cases h
  | case3 c rest hc ih =>
    rw [splitBlockComment.eq_3 c rest hc, Prod.mk.injEq] at h
    rw [close_infix_cons]
    rintro (⟨rfl, hhead⟩ | hclose)
    · cases rest with
      | nil => cases hhead
      | cons d rest => exact hc rest rfl (by simpa using hhead)
    · exact ih (Prod.ext (List.cons.inj h.1).2 h.2) hclose

theorem splitBlockComment_closed {body after : List Char}
    (hb : ¬ ['*', '/'] <:+: body ++ ['*']) :
    splitBlockComment (body ++ '*' :: '/' :: after) = (body, some after) := by
  induction body with
  | nil => rfl
  | cons c body ih =>
    rw [List.cons_append, close_infix_cons, not_or] at hb
    rw [List.cons_append, splitBlockComment.eq_3, ih hb.2]
    rintro rest rfl hrest
    refine hb.1 ⟨rfl, ?_⟩
    cases body with
    | nil => cases hrest
    | cons d body => exact congrArg List.head? (congrArg (List.take 1) hrest)

theorem splitBlockComment_open {body : List Char} (hb : ¬ ['*', '/'] <:+: body) :
    splitBlockComment body = (body, none) := by
  induction body with
  | nil => rfl
  | cons c body ih =>
    rw [close_infix_cons, not_or] at hb
    rw [splitBlockComment.eq_3, ih hb.2]
    rintro rest rfl rfl
    exact hb.1 ⟨rfl, rfl⟩

theorem mem_splitQuoted (source : List Char) :
    ∀ c ∈ (splitQuoted source).1, c ≠ '"' ∧ isBreak c = false := by
  induction source with
  | nil => simp [splitQuoted]
  | cons c rest ih =>
    rw [splitQuoted]
    split
    · simp
    · split
      · simp
      · rename_i hquote hbreak
        exact List.forall_mem_cons.mpr ⟨⟨hquote, by simpa using hbreak⟩, ih⟩

/-- A quoted text that is not closed ends with its line. -/
theorem lineEnds_splitQuoted {source : List Char} (h : (splitQuoted source).2.1 = false) :
    LineEnds (splitQuoted source).2.2 := by
  induction source with
  | nil => simp [splitQuoted, LineEnds]
  | cons c rest ih =>
    rw [splitQuoted] at h ⊢
    split at h
    · cases h
    · rename_i hquote
      rw [if_neg hquote]
      split at h
      · rename_i hbreak
        rw [if_pos hbreak]
        simpa [LineEnds] using hbreak
      · rename_i hbreak
        rw [if_neg hbreak]
        exact ih h

theorem splitQuoted_append_of_mem {body rest : List Char}
    (hb : ∀ c ∈ body, c ≠ '"' ∧ isBreak c = false) :
    splitQuoted (body ++ rest) = (body ++ (splitQuoted rest).1, (splitQuoted rest).2) := by
  induction body with
  | nil => rfl
  | cons c body ih =>
    obtain ⟨⟨hquote, hbreak⟩, hb⟩ := List.forall_mem_cons.mp hb
    rw [List.cons_append, splitQuoted, if_neg hquote, if_neg (by simp [hbreak]), ih hb]
    rfl

theorem splitQuoted_of_lineEnds {rest : List Char} (hr : LineEnds rest) :
    splitQuoted rest = ([], false, rest) := by
  cases rest with
  | nil => rfl
  | cons c rest =>
    have hbreak : isBreak c = true := hr c rfl
    have hquote : c ≠ '"' := by
      rintro rfl
      cases hbreak
    rw [splitQuoted, if_neg hquote, if_pos hbreak]

theorem fits_splitNumber {c : Char} (hc : c.isDigit = true) (rest : List Char) :
    (Lexeme.number (splitNumber (c :: rest)).1).Fits (splitNumber (c :: rest)).2 := by
  have hne : (c :: rest).takeWhile Char.isDigit ≠ [] := by simp [hc]
  have hd : ∀ d ∈ (c :: rest).takeWhile Char.isDigit, d.isDigit = true :=
    fun d hd ↦ List.mem_takeWhile_imp hd
  have hstop := stop_of_dropWhile Char.isDigit (c :: rest)
  rw [splitNumber]
  split
  · exact .fraction hne hd (fun d hd ↦ List.mem_takeWhile_imp hd) (stop_of_dropWhile _ _)
  · rename_i hpoint
    refine .whole hne hd fun d hd ↦ ⟨hstop d hd, ?_⟩
    rintro rfl
    obtain ⟨tail, htail⟩ := List.head?_eq_some_iff.mp hd
    exact hpoint tail htail

theorem splitNumber_of_fits {digits rest : List Char} (h : (Lexeme.number digits).Fits rest) :
    splitNumber (digits ++ rest) = (digits, rest) := by
  cases h with
  | whole hne hd hr =>
    have hstop : ∀ c ∈ rest.head?, c.isDigit = false := fun c hc ↦ (hr c hc).1
    rw [splitNumber, takeWhile_append_of_stop hd hstop, dropWhile_append_of_stop hd hstop]
    split
    · exact absurd rfl (hr '.' rfl).2
    · rfl
  | @fraction digits decimals _ hne hd hf hr =>
    have hstop : ∀ c ∈ ('.' :: decimals ++ rest).head?, c.isDigit = false := by
      rintro c ⟨⟩
      decide
    rw [List.append_assoc, splitNumber, takeWhile_append_of_stop hd hstop,
      dropWhile_append_of_stop hd hstop, List.cons_append]
    simp only [takeWhile_append_of_stop hf hr, dropWhile_append_of_stop hf hr]

/-! ### One lexeme -/

namespace Lexeme

/-- The lexeme that is cut off a text fits there. -/
theorem fits_read (c : Char) (rest : List Char) : (read c rest).1.Fits (read c rest).2 := by
  unfold read
  split
  · exact .lineFeed
  · exact .pair
  · rename_i hpair
    refine .carriageReturn fun hhead ↦ ?_
    obtain ⟨tail, htail⟩ := List.head?_eq_some_iff.mp hhead
    exact hpair tail htail
  · refine .lineComment (fun d hd ↦ by simpa using List.mem_takeWhile_imp hd) fun d hd ↦ ?_
    simpa using stop_of_dropWhile (!isBreak ·) _ d hd
  · split
    · rename_i h
      exact .closedComment (close_notInfix_of_some h)
    · rename_i h
      exact .openComment (close_notInfix_of_none h)
  · have hb := mem_splitQuoted rest
    have hopen : (splitQuoted rest).2.1 = false → LineEnds (splitQuoted rest).2.2 :=
      lineEnds_splitQuoted
    revert hb hopen
    generalize splitQuoted rest = split
    rcases split with ⟨body, closed, after⟩
    intro hb hopen
    cases closed with
    | true => exact .closedQuote hb
    | false => exact .openQuote hb (hopen rfl)
  · rename_i hfeed hreturn hquote _ hslash hstar
    split
    · rename_i hblank
      exact .blank hblank
    · split
      · rename_i hdigit
        exact fits_splitNumber hdigit rest
      · split
        · rename_i hword
          exact .word hword (fun d hd ↦ List.mem_takeWhile_imp hd) (stop_of_dropWhile _ _)
        · rename_i hblank hdigit hword
          refine .symbol ?_ fun hc d hd ↦ ⟨?_, ?_⟩
          · have hbreak : isBreak c = false := by
              simp only [isBreak, Bool.or_eq_false_iff, decide_eq_false_iff_not]
              exact ⟨hfeed, hreturn⟩
            simp only [isSymbol, hbreak, Bool.not_eq_true] at *
            simp [hblank, hdigit, hword]
            exact hquote
          · rintro rfl
            obtain ⟨tail, htail⟩ := List.head?_eq_some_iff.mp hd
            exact hslash tail hc htail
          · rintro rfl
            obtain ⟨tail, htail⟩ := List.head?_eq_some_iff.mp hd
            exact hstar tail hc htail

/-- What is cut off at a character that breaks no line and begins no comment and no quoted text. -/
theorem read_eq_ite {c : Char} {rest : List Char} (hbreak : isBreak c = false) (hquote : c ≠ '"')
    (hslash : c = '/' → ∀ d ∈ rest.head?, d ≠ '/' ∧ d ≠ '*') :
    read c rest =
      if isBlank c then (blank c, rest)
      else if c.isDigit then (number (splitNumber (c :: rest)).1, (splitNumber (c :: rest)).2)
      else if isWordStart c then
        (word (c :: rest.takeWhile isWordPart), rest.dropWhile isWordPart)
      else (symbol c, rest) := by
  simp only [isBreak, Bool.or_eq_false_iff, decide_eq_false_iff_not] at hbreak
  rw [read.eq_7]
  · exact hbreak.1
  · exact hbreak.2
  · exact hquote
  · exact fun _ hc _ ↦ hbreak.2 hc
  · rintro tail hc rfl
    exact (hslash hc '/' rfl).1 rfl
  · rintro tail hc rfl
    exact (hslash hc '*' rfl).2 rfl

/-- A number that fits is cut off. -/
theorem read_number {digits after rest : List Char} {c : Char}
    (h : (number digits).Fits after) (hsource : digits ++ after = c :: rest) :
    read c rest = (number digits, after) := by
  have hdigit : c.isDigit = true := by
    cases h with
    | whole hne hd _ =>
      obtain ⟨d, tail, rfl⟩ := List.exists_cons_of_ne_nil hne
      exact (List.cons.inj hsource).1 ▸ hd d List.mem_cons_self
    | fraction hne hd _ _ =>
      obtain ⟨d, tail, rfl⟩ := List.exists_cons_of_ne_nil hne
      exact (List.cons.inj hsource).1 ▸ hd d List.mem_cons_self
  have hcode : 32 < c.toNat := by have := toNat_of_isDigit hdigit; omega
  have hquote : c ≠ '"' := by rintro rfl; cases hdigit
  have hslash : c ≠ '/' := by rintro rfl; cases hdigit
  rw [read_eq_ite (isBreak_eq_false hcode) hquote fun h ↦ absurd h hslash,
    if_neg (by simp [isBlank_eq_false hcode]),
    if_pos hdigit, ← hsource, splitNumber_of_fits h]

/-- A lexeme that fits is cut off. -/
theorem read_of_fits {lexeme : Lexeme} {c : Char} {rest after : List Char}
    (h : lexeme.Fits after) (hsource : lexeme.spelling ++ after = c :: rest) :
    read c rest = (lexeme, after) := by
  cases h with
  | @blank d _ h =>
    obtain ⟨rfl, rfl⟩ := List.cons.inj hsource
    have hbreak : isBreak d = false := by
      simp only [isBlank, Bool.and_eq_true, Bool.not_eq_true'] at h
      exact h.2
    rw [read_eq_ite hbreak, if_pos h]
    · rfl
    · rintro rfl
      cases h
    · rintro rfl
      cases h
  | @lineComment body _ hb hr =>
    obtain ⟨rfl, rfl⟩ := List.cons.inj hsource
    have hbody : ∀ c ∈ body, (!isBreak c) = true := fun c hc ↦ by simp [hb c hc]
    have hstop : ∀ c ∈ after.head?, (!isBreak c) = false := fun c hc ↦ by simp [hr c hc]
    rw [List.append_eq, List.cons_append, read, takeWhile_append_of_stop hbody hstop,
      dropWhile_append_of_stop hbody hstop]
  | @closedComment body _ hb =>
    obtain rfl : c = '/' := (List.cons.inj hsource).1.symm
    obtain rfl : rest = '*' :: (body ++ '*' :: '/' :: after) := by
      simpa [spelling, eq_comm] using hsource
    rw [read, splitBlockComment_closed hb]
  | @openComment body hb =>
    obtain rfl : c = '/' := (List.cons.inj hsource).1.symm
    obtain rfl : rest = '*' :: body := by simpa [spelling, eq_comm] using hsource
    rw [read, splitBlockComment_open hb]
  | lineFeed =>
    obtain ⟨rfl, rfl⟩ := List.cons.inj hsource
    rfl
  | carriageReturn hr =>
    obtain ⟨rfl, rfl⟩ := List.cons.inj hsource
    rw [List.append_eq, List.nil_append, read]
    rintro tail rfl
    exact hr rfl
  | pair =>
    obtain ⟨rfl, rfl⟩ := List.cons.inj hsource
    rfl
  | whole hne hd hr => exact read_number (.whole hne hd hr) hsource
  | fraction hne hd hf hr => exact read_number (.fraction hne hd hf hr) hsource
  | @word d letters _ hc hl hr =>
    obtain ⟨rfl, rfl⟩ := List.cons.inj hsource
    have hletter := toNat_of_isWordStart hc
    have hcode : 32 < d.toNat := by omega
    have hdigit : d.isDigit = false :=
      Bool.eq_false_iff.mpr fun h ↦ by have := toNat_of_isDigit h; omega
    have hquote : d ≠ '"' := by rintro rfl; cases hc
    have hslash : d ≠ '/' := by rintro rfl; cases hc
    rw [read_eq_ite (isBreak_eq_false hcode) hquote fun h ↦ absurd h hslash,
      if_neg (by simp [isBlank_eq_false hcode]), if_neg (by simp [hdigit]), if_pos hc,
      List.append_eq, takeWhile_append_of_stop hl hr, dropWhile_append_of_stop hl hr]
  | @closedQuote body _ hb =>
    obtain rfl : c = '"' := (List.cons.inj hsource).1.symm
    obtain rfl : rest = body ++ '"' :: after := by simpa [spelling, eq_comm] using hsource
    rw [read, splitQuoted_append_of_mem hb]
    simp [splitQuoted]
  | @openQuote body _ hb hr =>
    obtain rfl : c = '"' := (List.cons.inj hsource).1.symm
    obtain rfl : rest = body ++ after := by simpa [spelling, eq_comm] using hsource
    rw [read, splitQuoted_append_of_mem hb, splitQuoted_of_lineEnds hr, List.append_nil]
  | @symbol d _ h hr =>
    obtain ⟨rfl, rfl⟩ := List.cons.inj hsource
    simp only [isSymbol, Bool.and_eq_true, Bool.not_eq_true', decide_eq_true_eq] at h
    obtain ⟨⟨⟨⟨hbreak, hblank⟩, hdigit⟩, hword⟩, hquote⟩ := h
    rw [List.append_eq, List.nil_append, read_eq_ite hbreak hquote hr, if_neg (by simp [hblank]),
      if_neg (by simp [hdigit]), if_neg (by simp [hword])]

theorem Fits.spelling_ne_nil {lexeme : Lexeme} {rest : List Char} (h : lexeme.Fits rest) :
    lexeme.spelling ≠ [] := by
  cases h with
  | whole hne => exact hne
  | fraction => simp [spelling]
  | _ => simp [spelling, LineBreak.spelling]

/-- A lexeme that fits has line breaks in it only if it is one or if it is a block comment. -/
theorem Fits.isBreak_eq_false {lexeme : Lexeme} {rest : List Char} (h : lexeme.Fits rest)
    (hline : ∀ form, lexeme ≠ .lineBreak form)
    (hcomment : ∀ body closed, lexeme ≠ .blockComment body closed) :
    ∀ c ∈ lexeme.spelling, isBreak c = false := by
  have hdigits {digits : List Char} (hd : ∀ c ∈ digits, c.isDigit = true) :
      ∀ c ∈ digits, isBreak c = false := fun c hc ↦ by
    have hcode := toNat_of_isDigit (hd c hc)
    exact Bugs.isBreak_eq_false (by omega)
  cases h with
  | blank h =>
    simp only [isBlank, Bool.and_eq_true, Bool.not_eq_true'] at h
    exact List.forall_mem_singleton.mpr h.2
  | lineComment hb =>
    exact List.forall_mem_cons.mpr ⟨by decide, List.forall_mem_cons.mpr ⟨by decide, hb⟩⟩
  | closedComment | openComment => exact absurd rfl (hcomment _ _)
  | lineFeed | carriageReturn | pair => exact absurd rfl (hline _)
  | whole _ hd => exact hdigits hd
  | fraction _ hd hf =>
    exact List.forall_mem_append.mpr
      ⟨hdigits hd, List.forall_mem_cons.mpr ⟨by decide, hdigits hf⟩⟩
  | word hc hl =>
    have hstart := toNat_of_isWordStart hc
    refine List.forall_mem_cons.mpr ⟨Bugs.isBreak_eq_false (by omega), fun c hc ↦ ?_⟩
    have hcode := toNat_of_isWordPart (hl c hc)
    exact Bugs.isBreak_eq_false (by omega)
  | closedQuote hb =>
    have hbody : ∀ c ∈ _, isBreak c = false := fun c hc ↦ (hb c hc).2
    exact List.forall_mem_cons.mpr ⟨by decide, List.forall_mem_append.mpr
      ⟨hbody, List.forall_mem_singleton.mpr (by decide)⟩⟩
  | openQuote hb =>
    have hbody : ∀ c ∈ _, isBreak c = false := fun c hc ↦ (hb c hc).2
    exact List.forall_mem_cons.mpr ⟨by decide, List.forall_mem_append.mpr
      ⟨hbody, List.forall_mem_nil _⟩⟩
  | symbol h =>
    simp only [isSymbol, Bool.and_eq_true, Bool.not_eq_true'] at h
    exact List.forall_mem_singleton.mpr h.1.1.1.1

end Lexeme

/-! ### The whole text -/

/-- The lexemes of a text fit in front of one another. -/
theorem fitting_lexemes (source : List Char) : Fitting (lexemes source) := by
  induction source using lexemes.induct with
  | case1 =>
    rw [lexemes]
    trivial
  | case2 c rest ih =>
    rw [lexemes]
    refine ⟨?_, ih⟩
    rw [flatMap_spelling_lexemes]
    exact Lexeme.fits_read c rest

/-- Lexemes that fit in front of one another are the lexemes of what they spell. -/
theorem lexemes_flatMap_spelling {ls : List Lexeme} (h : Fitting ls) :
    lexemes (ls.flatMap Lexeme.spelling) = ls := by
  induction ls with
  | nil => rw [List.flatMap_nil, lexemes]
  | cons lexeme ls ih =>
    obtain ⟨c, rest, hspelling⟩ := List.exists_cons_of_ne_nil h.1.spelling_ne_nil
    have hsource : lexeme.spelling ++ ls.flatMap Lexeme.spelling =
        c :: (rest ++ ls.flatMap Lexeme.spelling) := by rw [hspelling, List.cons_append]
    rw [List.flatMap_cons, hsource, lexemes, Lexeme.read_of_fits h.1 hsource, ih h.2]

/-- The lexemes of a text are the only lexemes that spell it and fit in front of one another. -/
theorem lexemes_eq_iff {source : List Char} {ls : List Lexeme} :
    lexemes source = ls ↔ ls.flatMap Lexeme.spelling = source ∧ Fitting ls := by
  constructor
  · rintro rfl
    exact ⟨flatMap_spelling_lexemes source, fitting_lexemes source⟩
  · rintro ⟨rfl, hfit⟩
    exact lexemes_flatMap_spelling hfit

end Bugs
