import Bugs.Proofs.Lexing.Position
import Bugs.Report

/-!
# Excerpts and the lines of tokens

A report is printed with an excerpt of the program text, and the printer cuts the text into lines in
its own way. It knows eight separators more than the two characters that break a line for a token
(`Text.isExotic`), and it shows no empty line at the end of a text. Both ways cut a text alike, an
empty last line apart, exactly if the text has none of the eight characters
(`splitLines_eq_countedLines_iff`). In such a text the report on the place of a token shows the line
on which the token starts, and the caret stands below the token.

## Main definitions

* `sourceLines`, `countedLines`: the lines on which tokens are placed, with an empty last line and
  without it.
* `Text.isExotic`: the separators that break no line for a token.

## Main results

* `splitLines_isBreak`: the printer's cut at line breaks gives the counted lines.
* `Place.line_length_after`: no place lies behind the end of its line.
* `excerpt_shows_line_of_token`.
-/

namespace Bugs

/-! ### The lines of a text -/

/-- The line that starts at an offset of a text: what stands in front of the next line break. -/
def lineFrom (source : List Char) (start : Nat) : List Char :=
  (source.drop start).takeWhile (!isBreak ·)

/-- The lines of a text, from each place where a line starts. A line break at the end of the text
opens an empty line. -/
def sourceLines (source : List Char) : List (List Char) :=
  (lineStarts source).map (lineFrom source)

/-- The lines without the last one, if that is empty. -/
def withoutEmptyLast (lines : List (List Char)) : List (List Char) :=
  if lines.getLast? = some [] then lines.dropLast else lines

/-- The lines of a text that hold a character or end in a line break. -/
def countedLines (source : List Char) : List (List Char) :=
  withoutEmptyLast (sourceLines source)

theorem breakEnds_add (shift offset : Nat) (source : List Char) :
    breakEnds (shift + offset) source = (breakEnds offset source).map (shift + ·) := by
  induction offset, source using breakEnds.induct with
  | case1 offset => rfl
  | case2 offset rest ih => rw [breakEnds, breakEnds, List.map_cons, ← ih, Nat.add_assoc]
  | case3 offset c rest hc hbreak ih =>
    rw [breakEnds.eq_3 _ _ _ hc, breakEnds.eq_3 _ _ _ hc, if_pos hbreak, if_pos hbreak,
      List.map_cons, ← ih, Nat.add_assoc]
  | case4 offset c rest hc hbreak ih =>
    rw [breakEnds.eq_3 _ _ _ hc, breakEnds.eq_3 _ _ _ hc, if_neg hbreak, if_neg hbreak, ← ih,
      Nat.add_assoc]

theorem map_lineFrom_add (front source : List Char) (starts : List Nat) :
    (starts.map (front.length + ·)).map (lineFrom (front ++ source)) =
      starts.map (lineFrom source) := by
  simp [lineFrom, Function.comp_def]

@[simp] theorem sourceLines_nil : sourceLines [] = [[]] := rfl

theorem sourceLines_ne_nil (source : List Char) : sourceLines source ≠ [] := by
  simp [sourceLines, lineStarts]

@[simp] theorem sourceLines_pair (rest : List Char) :
    sourceLines ('\r' :: '\n' :: rest) = [] :: sourceLines rest := by
  have hstarts : lineStarts ('\r' :: '\n' :: rest) =
      0 :: (lineStarts rest).map (['\r', '\n'].length + ·) := by
    simp [lineStarts, breakEnds, breakEnds_add 2 0]
  rw [sourceLines, hstarts, List.map_cons]
  exact congrArg _ (map_lineFrom_add ['\r', '\n'] rest (lineStarts rest))

theorem sourceLines_break {c : Char} {rest : List Char}
    (hc : ∀ after, c = '\r' → rest = '\n' :: after → False) (hbreak : isBreak c = true) :
    sourceLines (c :: rest) = [] :: sourceLines rest := by
  have hstarts : lineStarts (c :: rest) = 0 :: (lineStarts rest).map ([c].length + ·) := by
    simp [lineStarts, breakEnds.eq_3 _ _ _ hc, hbreak, breakEnds_add 1 0]
  have hfirst : lineFrom (c :: rest) 0 = [] := by simp [lineFrom, hbreak]
  rw [sourceLines, hstarts, List.map_cons, hfirst]
  exact congrArg _ (map_lineFrom_add [c] rest (lineStarts rest))

theorem sourceLines_cons {c : Char} {rest : List Char} (hbreak : isBreak c = false) :
    sourceLines (c :: rest) = Text.prepend c (sourceLines rest) := by
  have hc : ∀ after, c = '\r' → rest = '\n' :: after → False := by
    rintro after rfl -
    exact absurd hbreak (by decide)
  have hstarts : lineStarts (c :: rest) = 0 :: (breakEnds 0 rest).map ([c].length + ·) := by
    simp [lineStarts, breakEnds.eq_3 _ _ _ hc, hbreak, breakEnds_add 1 0]
  have hfirst : lineFrom (c :: rest) 0 = c :: lineFrom rest 0 := by simp [lineFrom, hbreak]
  rw [sourceLines, hstarts, List.map_cons, hfirst, sourceLines, lineStarts, List.map_cons,
    Text.prepend]
  exact congrArg _ (map_lineFrom_add [c] rest (breakEnds 0 rest))

/-! ### Cutting at line breaks -/

theorem withoutEmptyLast_cons {lines : List (List Char)} (hne : lines ≠ []) (line : List Char) :
    withoutEmptyLast (line :: lines) = line :: withoutEmptyLast lines := by
  obtain ⟨next, rest, rfl⟩ := List.exists_cons_of_ne_nil hne
  unfold withoutEmptyLast
  rw [List.getLast?_cons_cons]
  split
  · rfl
  · rfl

theorem withoutEmptyLast_prepend {lines : List (List Char)} (hne : lines ≠ []) (c : Char) :
    withoutEmptyLast (Text.prepend c lines) = Text.prepend c (withoutEmptyLast lines) := by
  obtain ⟨line, rest, rfl⟩ := List.exists_cons_of_ne_nil hne
  cases rest with
  | nil =>
    cases line with
    | nil => rfl
    | cons d line => rfl
  | cons next rest =>
    rw [Text.prepend, withoutEmptyLast_cons (List.cons_ne_nil next rest),
      withoutEmptyLast_cons (List.cons_ne_nil next rest), Text.prepend]

/-- Cut at its line breaks, a text falls into its counted lines. -/
theorem splitLines_isBreak (source : List Char) :
    Text.splitLines isBreak source = countedLines source := by
  unfold countedLines
  induction source using Text.splitLines.induct isBreak with
  | case1 => rfl
  | case2 rest ih =>
    rw [Text.splitLines, ih, sourceLines_pair, withoutEmptyLast_cons (sourceLines_ne_nil rest)]
  | case3 c rest hc hbreak ih =>
    rw [Text.splitLines.eq_3 _ _ _ hc, if_pos hbreak, ih, sourceLines_break hc hbreak,
      withoutEmptyLast_cons (sourceLines_ne_nil rest)]
  | case4 c rest hc hbreak ih =>
    rw [Text.splitLines.eq_3 _ _ _ hc, if_neg hbreak, ih,
      sourceLines_cons (Bool.not_eq_true _ ▸ hbreak),
      withoutEmptyLast_prepend (sourceLines_ne_nil rest)]

/-! ### Separators that break no line -/

/-- The separators of a printed excerpt that break no line for a token: line tabulation, form feed,
the file, group and record separators, next line, and the separators of lines and paragraphs. -/
def Text.exoticSeparators : List Char :=
  ['\x0b', '\x0c', '\x1c', '\x1d', '\x1e', '\u0085', '\u2028', '\u2029']

/-- The character cuts an excerpt and breaks no line for a token. -/
def Text.isExotic (c : Char) : Bool :=
  c ∈ exoticSeparators

/-- A printed excerpt is cut at line breaks and at the other separators. -/
theorem Text.isLineSeparator_eq (c : Char) : isLineSeparator c = (isBreak c || isExotic c) := by
  rw [Bool.eq_iff_iff]
  simp only [isLineSeparator, isBreak, isExotic, exoticSeparators, List.mem_cons,
    List.not_mem_nil, or_false, Bool.or_eq_true, decide_eq_true_eq]
  tauto

theorem isBreak_of_isExotic {c : Char} (h : Text.isExotic c = true) : isBreak c = false := by
  have hall : Text.exoticSeparators.all (!isBreak ·) = true := by decide
  simpa using List.all_eq_true.mp hall c (of_decide_eq_true h)

namespace Text

theorem exists_mem_prepend {c d : Char} {lines : List (List Char)} :
    (∃ line ∈ prepend c lines, d ∈ line) ↔ d = c ∨ ∃ line ∈ lines, d ∈ line := by
  cases lines with
  | nil => simp [prepend]
  | cons first rest => simp [prepend, or_assoc]

/-- No line holds a separator. -/
theorem not_separates_of_mem_splitLines {separates : Char → Bool} {source line : List Char}
    (hline : line ∈ splitLines separates source) {c : Char} (hc : c ∈ line) :
    separates c = false := by
  induction source using splitLines.induct separates generalizing line with
  | case1 => cases hline
  | case2 rest ih =>
    rw [splitLines, List.mem_cons] at hline
    rcases hline with rfl | hline
    · cases hc
    · exact ih hline hc
  | case3 d rest hd hsep ih =>
    rw [splitLines.eq_3 _ _ _ hd, if_pos hsep, List.mem_cons] at hline
    rcases hline with rfl | hline
    · cases hc
    · exact ih hline hc
  | case4 d rest hd hsep ih =>
    rw [splitLines.eq_3 _ _ _ hd, if_neg hsep] at hline
    rcases exists_mem_prepend.mp ⟨line, hline, hc⟩ with rfl | ⟨other, hother, hc⟩
    · simpa using hsep
    · exact ih hother hc

/-- Every character that separates no lines stands on a line. A carriage return in front of a line
feed is taken to separate. -/
theorem exists_mem_splitLines {separates : Char → Bool} (hreturn : separates '\r' = true)
    (hfeed : separates '\n' = true) {source : List Char} {c : Char} (hc : c ∈ source)
    (hsep : separates c = false) : ∃ line ∈ splitLines separates source, c ∈ line := by
  induction source using splitLines.induct separates with
  | case1 => cases hc
  | case2 rest ih =>
    have hrest : c ∈ rest := by
      simp only [List.mem_cons] at hc
      rcases hc with rfl | rfl | hc
      · exact absurd hreturn (by simp [hsep])
      · exact absurd hfeed (by simp [hsep])
      · exact hc
    obtain ⟨line, hline, hmem⟩ := ih hrest
    exact ⟨line, by rw [splitLines]; exact List.mem_cons_of_mem _ hline, hmem⟩
  | case3 d rest hd hbreak ih =>
    rcases List.mem_cons.mp hc with rfl | hc
    · exact absurd hbreak (by simp [hsep])
    · obtain ⟨line, hline, hmem⟩ := ih hc
      refine ⟨line, ?_, hmem⟩
      rw [splitLines.eq_3 _ _ _ hd, if_pos hbreak]
      exact List.mem_cons_of_mem _ hline
  | case4 d rest hd hbreak ih =>
    rw [splitLines.eq_3 _ _ _ hd, if_neg hbreak, exists_mem_prepend]
    exact (List.mem_cons.mp hc).imp_right ih

theorem splitLines_congr {separates separates' : Char → Bool} {source : List Char}
    (h : ∀ c ∈ source, separates' c = separates c) :
    splitLines separates' source = splitLines separates source := by
  induction source using splitLines.induct separates with
  | case1 => rfl
  | case2 rest ih =>
    rw [splitLines, splitLines, ih fun c hc ↦ h c (by simp [hc])]
  | case3 d rest hd hbreak ih | case4 d rest hd hbreak ih =>
    rw [splitLines.eq_3 _ _ _ hd, splitLines.eq_3 _ _ _ hd, h d List.mem_cons_self,
      ih fun c hc ↦ h c (List.mem_cons_of_mem d hc)]

end Text

/-- The printer's lines of a text are its counted lines exactly if none of the other separators
occurs in it. -/
theorem splitLines_eq_countedLines_iff (source : List Char) :
    Text.splitLines Text.isLineSeparator source = countedLines source ↔
      ∀ c ∈ source, Text.isExotic c = false := by
  rw [← splitLines_isBreak]
  constructor
  · intro heq c hc
    by_contra hexotic
    rw [Bool.not_eq_false] at hexotic
    obtain ⟨line, hline, hmem⟩ :=
      Text.exists_mem_splitLines (by decide) (by decide) hc (isBreak_of_isExotic hexotic)
    rw [← heq] at hline
    have hsep := Text.not_separates_of_mem_splitLines hline hmem
    rw [Text.isLineSeparator_eq, hexotic, Bool.or_true] at hsep
    cases hsep
  · intro h
    exact Text.splitLines_congr fun c hc ↦ by rw [Text.isLineSeparator_eq, h c hc, Bool.or_false]

/-! ### The line of a place -/

/-- The place behind a part of a text lies on one of the lines of the text, and not behind its end.
A place on another line counts its column from one. -/
theorem Place.line_length_after {before after : List Char} (hseam : Seam before after)
    (place : Place) :
    ∃ n line, (place.after before).line = place.line + n ∧
      (sourceLines (before ++ after))[n]? = some line ∧
      (if n = 0 then place.column else 1) ≤ (place.after before).column ∧
      (place.after before).column ≤ (if n = 0 then place.column else 1) + line.length := by
  induction place, before using Place.after.induct with
  | case1 place =>
    obtain ⟨line, rest, hlines⟩ := List.exists_cons_of_ne_nil (sourceLines_ne_nil after)
    exact ⟨0, line, rfl, by simp [hlines], by simp [Place.after], by simp [Place.after]⟩
  | case2 place rest ih =>
    obtain ⟨n, line, hn, hline, hle, hle'⟩ := ih hseam.tail.tail
    rw [ite_self] at hle hle'
    refine ⟨n + 1, line, ?_, by simpa using hline, by simpa [Place.after] using hle,
      by simpa [Place.after] using hle'⟩
    rw [Place.after, hn]
    dsimp only
    omega
  | case3 place c rest hc hbreak ih =>
    obtain ⟨n, line, hn, hline, hle, hle'⟩ := ih hseam.tail
    rw [ite_self] at hle hle'
    rw [Place.after.eq_3 _ _ _ hc, if_pos hbreak, List.cons_append,
      sourceLines_break (hseam.append_ne_pair hc) hbreak]
    refine ⟨n + 1, line, ?_, by simpa using hline, by simpa using hle, by simpa using hle'⟩
    rw [hn]
    dsimp only
    omega
  | case4 place c rest hc hbreak ih =>
    obtain ⟨n, line, hn, hline, hle, hle'⟩ := ih hseam.tail
    obtain ⟨first, others, hlines⟩ :=
      List.exists_cons_of_ne_nil (sourceLines_ne_nil (rest ++ after))
    rw [Place.after.eq_3 _ _ _ hc, if_neg hbreak, List.cons_append,
      sourceLines_cons (Bool.not_eq_true _ ▸ hbreak), hlines, Text.prepend]
    rw [hlines] at hline
    cases n with
    | zero =>
      obtain rfl : first = line := by simpa using hline
      simp only [if_true] at hle hle' ⊢
      exact ⟨0, c :: first, hn, rfl, by simp; omega, by simp; omega⟩
    | succ n =>
      exact ⟨n + 1, line, hn, by simpa using hline, by simpa using hle, by simpa using hle'⟩

/-- Every token of lexemes that follow what was read is placed behind a part of the text. -/
theorem exists_part_of_mem_placeTokens (lexicon : Lexicon) {ls : List Lexeme} (hfit : Fitting ls)
    (read : List Char) (hseam : Seam read (ls.flatMap Lexeme.spelling)) {t : Token}
    (ht : t ∈ placeTokens lexicon (Place.start.after read) ls) :
    ∃ before after kind text, before ++ after = read ++ ls.flatMap Lexeme.spelling ∧
      Seam before after ∧ t = .placedAt (Place.start.after before) kind text := by
  induction ls generalizing read with
  | nil => exact ⟨read, [], _, _, rfl, hseam, List.mem_singleton.mp ht⟩
  | cons lexeme ls ih =>
    rw [List.flatMap_cons] at hseam ⊢
    have hrest (ht : t ∈ placeTokens lexicon ((Place.start.after read).after lexeme.spelling) ls) :
        ∃ before after kind text,
          before ++ after = read ++ (lexeme.spelling ++ ls.flatMap Lexeme.spelling) ∧
          Seam before after ∧ t = .placedAt (Place.start.after before) kind text := by
      rw [← Place.after_append hseam.of_append] at ht
      rw [← List.append_assoc]
      exact ih hfit.2 _ (hfit.1.seam.append_left hfit.1.spelling_ne_nil) ht
    rw [placeTokens] at ht
    split at ht
    · rcases List.mem_cons.mp ht with rfl | ht
      · exact ⟨read, _, _, _, rfl, hseam, rfl⟩
      · exact hrest ht
    · exact hrest ht

/-- A token stands on a line of its text, and not behind the end of the line. -/
theorem exists_line_of_mem_tokenize {lexicon : Lexicon} {source : String} {t : Token}
    (ht : t ∈ tokenize lexicon source) :
    ∃ (n column : Nat) (line : List Char), t.line = n + 1 ∧ t.column = column + 1 ∧
      (sourceLines source.toList)[n]? = some line ∧ column ≤ line.length := by
  obtain ⟨before, after, kind, text, hparts, hseam, rfl⟩ := exists_part_of_mem_placeTokens lexicon
    (fitting_lexemes source.toList) [] (.of_notMem List.not_mem_nil _) ht
  rw [flatMap_spelling_lexemes, List.nil_append] at hparts
  obtain ⟨n, line, hn, hline, hle, hle'⟩ := Place.line_length_after hseam .start
  rw [hparts] at hline
  rw [show Place.start.column = 1 from rfl, ite_self] at hle hle'
  refine ⟨n, (Place.start.after before).column - 1, line, ?_, ?_, hline, by omega⟩
  · rw [Token.placedAt, hn, Place.start]
    push_cast
    exact Int.add_comm ..
  · rw [Token.placedAt]
    dsimp only
    omega

/-! ### Excerpts -/

/-- Without an empty last line the other lines keep their numbers. -/
theorem getElem?_withoutEmptyLast {lines : List (List Char)} {n : Nat} {line : List Char}
    (h : lines[n]? = some line) :
    (withoutEmptyLast lines)[n]? =
      if line = [] ∧ n + 1 = lines.length then none else some line := by
  have hlt : n < lines.length := (List.getElem?_eq_some_iff.mp h).1
  have hlast (heq : n + 1 = lines.length) : lines.getLast? = some line := by
    rw [List.getLast?_eq_getElem?, ← heq, Nat.add_sub_cancel, h]
  unfold withoutEmptyLast
  split
  · rename_i hempty
    rw [List.getElem?_dropLast]
    by_cases heq : n + 1 = lines.length
    · obtain rfl : line = [] := Option.some.inj ((hlast heq).symm.trans hempty)
      rw [if_neg (by omega), if_pos ⟨rfl, heq⟩]
    · rw [if_pos (by omega), if_neg fun hline ↦ heq hline.2, h]
  · rename_i hne
    rw [if_neg, h]
    rintro ⟨rfl, heq⟩
    exact hne (hlast heq)

theorem Report.caretIndent_eq {column length : Nat} (h : column ≤ length) :
    caretIndent (column + 1) length = column := by
  simp only [caretIndent]
  omega

/-- The printer's lines of a text are those on which tokens are placed, an empty last line apart,
exactly if none of the other separators occurs in the text. In such a text a report on the place of
a token shows the line of the token in full and a caret below the token. On an empty last line it
shows no excerpt. -/
theorem excerpt_shows_line_of_token (source : String) :
    (Text.splitLines Text.isLineSeparator source.toList = countedLines source.toList ↔
      ∀ c ∈ source.toList, Text.isExotic c = false) ∧
    ((∀ c ∈ source.toList, Text.isExotic c = false) →
      ∀ (lexicon : Lexicon), ∀ t ∈ tokenize lexicon source, ∀ message : String,
        let report : Report := ⟨message, some t.line, some t.column⟩
        ∃ (n column : Nat) (line : List Char), t.line = n + 1 ∧ t.column = column + 1 ∧
          (sourceLines source.toList)[n]? = some line ∧ column ≤ line.length ∧
          report.excerpt source =
            if line = [] ∧ n + 1 = (sourceLines source.toList).length then report.headline
            else report.headline ++ "\n" ++ String.ofList line ++ "\n" ++
              String.ofList (List.replicate column ' ') ++ "^") := by
  have hiff := splitLines_eq_countedLines_iff source.toList
  refine ⟨hiff, fun hplain lexicon t ht message ↦ ?_⟩
  intro report
  obtain ⟨n, column, line, hn, hcolumn, hline, hle⟩ := exists_line_of_mem_tokenize ht
  refine ⟨n, column, line, hn, hcolumn, hline, hle, ?_⟩
  have hshown : report.line.bind (Report.lineOf? source) =
      if line = [] ∧ n + 1 = (sourceLines source.toList).length then none else some line := by
    have hpos : (1 : Int) ≤ n + 1 := by omega
    have hindex : ((n : Int) + 1 - 1).toNat = n := by omega
    rw [← getElem?_withoutEmptyLast hline]
    simp only [report, Option.bind_some, Report.lineOf?, hn, hiff.mpr hplain, countedLines,
      if_pos hpos, hindex]
  have hcaret : report.column = some ((column : Int) + 1) := congrArg some hcolumn
  rw [Report.excerpt, hshown, hcaret]
  by_cases hempty : line = [] ∧ n + 1 = (sourceLines source.toList).length
  · rw [if_pos hempty, if_pos hempty]
  · rw [if_neg hempty, if_neg hempty]
    simp only [Report.caretIndent_eq hle]

/-- Behind a comment that goes over a line end: the report on the brace shows the second line, and
the caret stands below the brace. The end of the text lies on an empty line, which is not shown. -/
theorem excerpt_behind_comment :
    let source := "move 1 /* one\r\n two */ \x7d\n"
    (∀ c ∈ source.toList, Text.isExotic c = false) ∧
      ⟨.symbol, "\x7d", 2, 9⟩ ∈ tokenize .standard source ∧
      ⟨.endOfInput, "EOF", 3, 1⟩ ∈ tokenize .standard source ∧
      Report.excerpt ⟨"Expected", some 2, some 9⟩ source =
        "Line 2: Expected\n two */ \x7d\n        ^" ∧
      Report.excerpt ⟨"Expected", some 3, some 1⟩ source = "Line 3: Expected" := by
  intro source
  have hplain : ∀ c ∈ source.toList, Text.isExotic c = false := by
    have hall : source.toList.all (!Text.isExotic ·) = true := by decide +kernel
    simpa using List.all_eq_true.mp hall
  have hbrace : ⟨.symbol, "\x7d", 2, 9⟩ ∈ tokenize .standard source := by decide +kernel
  have hend : ⟨.endOfInput, "EOF", 3, 1⟩ ∈ tokenize .standard source := by decide +kernel
  have hlines : sourceLines source.toList =
      ["move 1 /* one".toList, " two */ \x7d".toList, []] := by
    decide +kernel
  have hexcerpt := (excerpt_shows_line_of_token source).2 hplain .standard
  refine ⟨hplain, hbrace, hend, ?_, ?_⟩
  · obtain ⟨n, column, line, hn, hcolumn, hline, -, hshown⟩ := hexcerpt _ hbrace "Expected"
    obtain rfl : n = 1 := by simp at hn; omega
    obtain rfl : column = 8 := by simp at hcolumn; omega
    rw [hlines] at hline hshown
    obtain rfl : " two */ \x7d".toList = line := Option.some.inj hline
    rw [hshown]
    decide +kernel
  · obtain ⟨n, column, line, hn, hcolumn, hline, -, hshown⟩ := hexcerpt _ hend "Expected"
    obtain rfl : n = 2 := by simp at hn; omega
    rw [hlines] at hline hshown
    obtain rfl : [] = line := Option.some.inj hline
    rw [hshown, if_pos ⟨rfl, rfl⟩]
    decide +kernel

end Bugs
