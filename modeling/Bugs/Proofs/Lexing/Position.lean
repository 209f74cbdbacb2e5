import Bugs.Proofs.Lexing.Fitting
import Bugs.Token.Scan

/-!
# Places and offsets

A place is a line and a column, an offset counts the characters in front of it. The lines of a text
start at offset zero and behind every line break (`lineStarts`). The place that is reached by
reading a part of a text lies on the line that its line breaks tell (`Place.line_after`), as far
behind the start of that line as the part goes on behind it (`Place.column_after`). A text may be
read in parts as long as no part ends between a carriage return and its line feed (`Seam`), and no
lexeme ends there (`Lexeme.Fits.seam`).

## Main definitions

* `breakEnds`, `lineStarts`: the offsets behind the line breaks of a text, and where its lines
  start.
* `Token.StartsAt`: the offset of a token.
* `Seam`: a text may be read in the two parts.

## Main results

* `Place.after_append`, `Token.startsAt_placedAt`, `Lexeme.Fits.seam`.
-/

namespace Bugs

/-- The offsets behind the line breaks of a text that begins at an offset. A carriage return and the
line feed behind it are one line break. -/
def breakEnds (offset : Nat) : List Char → List Nat
  | [] => []
  | '\r' :: '\n' :: rest => (offset + 2) :: breakEnds (offset + 2) rest
  | c :: rest =>
    if isBreak c then (offset + 1) :: breakEnds (offset + 1) rest
    else breakEnds (offset + 1) rest

/-- The offsets at which the lines of a text start. -/
def lineStarts (source : List Char) : List Nat :=
  0 :: breakEnds 0 source

/-- The token starts at an offset of the text: as far behind the start of its line as its column
tells. -/
def Token.StartsAt (source : List Char) (t : Token) (offset : Nat) : Prop :=
  ∃ line start column : Nat, t.line = line + 1 ∧ (lineStarts source)[line]? = some start ∧
    t.column = column + 1 ∧ start + column = offset

/-- A text may be read in the two parts: the first does not end in a carriage return whose line
feed begins the second. -/
def Seam (before after : List Char) : Prop :=
  before.getLast? = some '\r' → after.head? ≠ some '\n'

/-! ### Reading in parts -/

theorem Seam.of_notMem {before : List Char} (h : '\r' ∉ before) (after : List Char) :
    Seam before after :=
  fun hlast ↦ absurd (List.mem_of_getLast? hlast) h

theorem Seam.tail {c : Char} {before after : List Char} (h : Seam (c :: before) after) :
    Seam before after := by
  cases before with
  | nil => exact .of_notMem List.not_mem_nil after
  | cons d before => rwa [Seam, List.getLast?_cons_cons] at h

theorem Seam.append_left {first second after : List Char} (hne : second ≠ [])
    (h : Seam second after) : Seam (first ++ second) after := by
  rwa [Seam, List.getLast?_append_of_ne_nil _ hne]

theorem Seam.of_append {before first second : List Char} (h : Seam before (first ++ second)) :
    Seam before first := by
  cases first with
  | nil => exact fun _ ↦ by simp
  | cons c first => exact h

/-- Behind a character that does not begin a pair with what follows it, it begins none with what is
read later. -/
theorem Seam.append_ne_pair {c : Char} {before after : List Char} (h : Seam (c :: before) after)
    (hc : ∀ rest, c = '\r' → before = '\n' :: rest → False) :
    ∀ rest, c = '\r' → before ++ after = '\n' :: rest → False := by
  rintro rest rfl heq
  cases before with
  | nil => exact h rfl (congrArg List.head? heq)
  | cons d before => exact hc before rfl (by rw [(List.cons.inj heq).1])

/-- The place behind a text is reached by reading it in parts. -/
theorem Place.after_append {before after : List Char} (h : Seam before after) (place : Place) :
    place.after (before ++ after) = (place.after before).after after := by
  induction place, before using Place.after.induct with
  | case1 place => rfl
  | case2 place rest ih => exact ih h.tail.tail
  | case3 place c rest hc hbreak ih =>
    rw [List.cons_append, Place.after.eq_3 _ _ _ (h.append_ne_pair hc), Place.after.eq_3 _ _ _ hc,
      if_pos hbreak, if_pos hbreak, ih h.tail]
  | case4 place c rest hc hbreak ih =>
    rw [List.cons_append, Place.after.eq_3 _ _ _ (h.append_ne_pair hc), Place.after.eq_3 _ _ _ hc,
      if_neg hbreak, if_neg hbreak, ih h.tail]

/-- The line breaks of a text are found by reading it in parts. -/
theorem breakEnds_append {before after : List Char} (h : Seam before after) (offset : Nat) :
    breakEnds offset (before ++ after) =
      breakEnds offset before ++ breakEnds (offset + before.length) after := by
  induction offset, before using breakEnds.induct with
  | case1 offset => rfl
  | case2 offset rest ih =>
    rw [List.cons_append, List.cons_append, breakEnds, breakEnds, ih h.tail.tail, List.cons_append]
    simp only [List.length_cons]
    congr 3
    omega
  | case3 offset c rest hc hbreak ih =>
    rw [List.cons_append, breakEnds.eq_3 _ _ _ (h.append_ne_pair hc), breakEnds.eq_3 _ _ _ hc,
      if_pos hbreak, if_pos hbreak, ih h.tail, List.cons_append, List.length_cons]
    congr 3
    omega
  | case4 offset c rest hc hbreak ih =>
    rw [List.cons_append, breakEnds.eq_3 _ _ _ (h.append_ne_pair hc), breakEnds.eq_3 _ _ _ hc,
      if_neg hbreak, if_neg hbreak, ih h.tail, List.length_cons]
    congr 2
    omega

theorem breakEnds_of_forall {source : List Char} (h : ∀ c ∈ source, isBreak c = false)
    (offset : Nat) : breakEnds offset source = [] := by
  induction offset, source using breakEnds.induct with
  | case1 offset => rfl
  | case2 offset rest ih => exact absurd (h '\r' List.mem_cons_self) (by decide)
  | case3 offset c rest hc hbreak ih => exact absurd hbreak (by simp [h c List.mem_cons_self])
  | case4 offset c rest hc hbreak ih =>
    rw [breakEnds.eq_3 _ _ _ hc, if_neg hbreak]
    exact ih fun d hd ↦ h d (List.mem_cons_of_mem c hd)

/-! ### The place behind a text -/

/-- The line of a place counts the line breaks in front of it. -/
theorem Place.line_after (place : Place) (offset : Nat) (source : List Char) :
    (place.after source).line = place.line + (breakEnds offset source).length := by
  induction place, source using Place.after.induct generalizing offset with
  | case1 place => rfl
  | case2 place rest ih =>
    rw [Place.after, breakEnds, ih (offset + 2), List.length_cons]
    dsimp only
    omega
  | case3 place c rest hc hbreak ih =>
    rw [Place.after.eq_3 _ _ _ hc, breakEnds.eq_3 _ _ _ hc, if_pos hbreak, if_pos hbreak,
      ih (offset + 1), List.length_cons]
    dsimp only
    omega
  | case4 place c rest hc hbreak ih =>
    rw [Place.after.eq_3 _ _ _ hc, breakEnds.eq_3 _ _ _ hc, if_neg hbreak, if_neg hbreak,
      ih (offset + 1)]

theorem length_breakEnds (offset offset' : Nat) (source : List Char) :
    (breakEnds offset source).length = (breakEnds offset' source).length := by
  have h := Place.start.line_after offset source
  rw [Place.start.line_after offset' source] at h
  omega

/-- The column of a place counts the characters behind the last line break, and the characters in
front of that belong to the text as well. -/
theorem Place.column_after (place : Place) (source : List Char) (offset start column : Nat)
    (hcolumn : place.column = column + 1) (hstart : start + column = offset) :
    ∃ start' column', (start :: breakEnds offset source).getLast? = some start' ∧
      (place.after source).column = column' + 1 ∧ start' + column' = offset + source.length := by
  induction place, source using Place.after.induct generalizing offset start column with
  | case1 place => exact ⟨start, column, rfl, hcolumn, hstart⟩
  | case2 place rest ih =>
    rw [Place.after, breakEnds, List.getLast?_cons_cons]
    obtain ⟨start', column', hlast, hcol, hsum⟩ := ih _ _ 0 rfl (Nat.add_zero (offset + 2))
    refine ⟨start', column', hlast, hcol, ?_⟩
    simp only [List.length_cons]
    omega
  | case3 place c rest hc hbreak ih =>
    rw [Place.after.eq_3 _ _ _ hc, breakEnds.eq_3 _ _ _ hc, if_pos hbreak, if_pos hbreak,
      List.getLast?_cons_cons]
    obtain ⟨start', column', hlast, hcol, hsum⟩ := ih _ _ 0 rfl (Nat.add_zero (offset + 1))
    refine ⟨start', column', hlast, hcol, ?_⟩
    rw [List.length_cons]
    omega
  | case4 place c rest hc hbreak ih =>
    rw [Place.after.eq_3 _ _ _ hc, breakEnds.eq_3 _ _ _ hc, if_neg hbreak, if_neg hbreak]
    obtain ⟨start', column', hlast, hcol, hsum⟩ :=
      ih (offset + 1) start (column + 1) (congrArg (· + 1) hcolumn) (congrArg (· + 1) hstart)
    refine ⟨start', column', hlast, hcol, ?_⟩
    rw [List.length_cons]
    omega

/-- A token that is placed behind a part of a text starts at the offset where that part ends. -/
theorem Token.startsAt_placedAt {before after : List Char} (h : Seam before after)
    (kind : TokenKind) (text : String) :
    (Token.placedAt (Place.start.after before) kind text).StartsAt (before ++ after)
      before.length := by
  obtain ⟨start, column, hlast, hcolumn, hsum⟩ :=
    Place.start.column_after before 0 0 0 rfl rfl
  refine ⟨(breakEnds 0 before).length, start, column, ?_, ?_, ?_, by omega⟩
  · rw [Token.placedAt, Place.start.line_after 0 before, Place.start]
    push_cast
    omega
  · rw [lineStarts, breakEnds_append h, ← List.cons_append, List.getElem?_append_left (by simp),
      ← hlast, List.getLast?_eq_getElem?]
    simp
  · rw [Token.placedAt, hcolumn]
    push_cast
    rfl

/-! ### Lexemes -/

/-- No lexeme ends between a carriage return and its line feed. -/
theorem Lexeme.Fits.seam {lexeme : Lexeme} {rest : List Char} (h : lexeme.Fits rest) :
    Seam lexeme.spelling rest := by
  have hseam (hline : ∀ form, lexeme ≠ .lineBreak form)
      (hcomment : ∀ body closed, lexeme ≠ .blockComment body closed) :
      Seam lexeme.spelling rest :=
    .of_notMem (fun hmem ↦ absurd (h.isBreak_eq_false hline hcomment _ hmem) (by decide)) rest
  cases h with
  | @closedComment body _ _ =>
    intro hlast
    have hslash : (spelling (.blockComment body true)).getLast? = some '/' := by
      simp [spelling, List.getLast?_append, List.getLast?_cons]
    cases hslash.symm.trans hlast
  | openComment => exact fun _ ↦ by simp
  | lineFeed => exact .of_notMem (by decide) rest
  | carriageReturn hr => exact fun _ ↦ hr
  | pair => exact fun hlast ↦ by cases hlast
  | blank | lineComment | whole | fraction | word | closedQuote | openQuote | symbol =>
    exact hseam (by simp) (by simp)

end Bugs
