import Bugs.Proofs.FirstError
import Bugs.Proofs.Lexing.Position

/-!
# Where a tracked diagnostic points

While lines are tracked, a diagnostic takes its column from the token at the cursor and its line
from the line counter, and the counter moves only with the line ends that were read. A line break
inside a block comment yields no token, so the counter falls behind the text by the line breaks
inside the comments that stand between the last line end and the token (`hiddenLines`), and it
catches up at the next line end. The line and the column of a diagnostic are those of one token
exactly if there are no such line breaks.

## Main definitions

* `lexemesBefore`: the lexemes in front of a token.
* `hiddenBreaks`, `hiddenLines`: the line breaks inside comments behind the last line end, in a
  list of lexemes and in front of a token of a text.

## Main results

* `line_eq_lineBehind`: by how much the line counter is behind the line of a token.
* `tracked_diagnostic_place`.
-/

namespace Bugs

/-! ### Line breaks of lexemes -/

/-- The number of line breaks in a lexeme. -/
def Lexeme.breaks : Lexeme → Nat
  | lineBreak _ => 1
  | blockComment body _ => (breakEnds 0 body).length
  | blank _ | lineComment _ | number _ | word _ | quoted _ _ | symbol _ => 0

/-- Behind a lexeme the line is further on by the line breaks in it. -/
theorem Lexeme.Fits.line_after {lexeme : Lexeme} {rest : List Char} (h : lexeme.Fits rest)
    (place : Place) : (place.after lexeme.spelling).line = place.line + lexeme.breaks := by
  have hnone (hline : ∀ form, lexeme ≠ .lineBreak form)
      (hcomment : ∀ body closed, lexeme ≠ .blockComment body closed) :
      (place.after lexeme.spelling).line = place.line + 0 := by
    rw [place.line_after 0, breakEnds_of_forall (h.isBreak_eq_false hline hcomment),
      List.length_nil]
  cases h with
  | blank | lineComment | whole | fraction | word | closedQuote | openQuote | symbol =>
    exact hnone (by simp) (by simp)
  | lineFeed | carriageReturn | pair => rfl
  | @closedComment body _ _ =>
    have hseam : Seam ('/' :: '*' :: body) ['*', '/'] := fun _ ↦ by decide
    rw [spelling, if_pos rfl, place.line_after 0, breakEnds_append hseam, List.length_append,
      breaks, length_breakEnds 0 2 body]
    rfl
  | @openComment body _ =>
    rw [spelling, if_neg Bool.false_ne_true, List.append_nil, place.line_after 0, breaks,
      length_breakEnds 0 2 body]
    rfl

/-- The line ends are the lexemes whose token ends a line. -/
theorem Lexeme.kind_eq_endOfLine_iff {lexicon : Lexicon} {lexeme : Lexeme} {kind : TokenKind}
    {text : String} (h : lexeme.content? lexicon = some (kind, text)) :
    kind = .endOfLine ↔ ∃ form, lexeme = .lineBreak form := by
  cases lexeme with
  | blank | lineComment | blockComment => cases h
  | lineBreak form =>
    cases h
    exact ⟨fun _ ↦ ⟨form, rfl⟩, fun _ ↦ rfl⟩
  | word letters =>
    cases h
    rw [Lexicon.wordKind]
    split <;> simp
  | number | quoted | symbol =>
    cases h
    simp

/-! ### Line breaks in front of a token -/

/-- The lexemes in front of the token of an index, counted from zero. -/
def lexemesBefore (lexicon : Lexicon) : Nat → List Lexeme → List Lexeme
  | _, [] => []
  | index, lexeme :: rest =>
    match lexeme.content? lexicon, index with
    | some _, 0 => []
    | some _, index + 1 => lexeme :: lexemesBefore lexicon index rest
    | none, index => lexeme :: lexemesBefore lexicon index rest

/-- The line breaks inside block comments behind the last line end. Those in front of the lexemes
are given. -/
def hiddenBreaks (hidden : Nat) : List Lexeme → Nat
  | [] => hidden
  | .lineBreak _ :: rest => hiddenBreaks 0 rest
  | lexeme :: rest => hiddenBreaks (hidden + lexeme.breaks) rest

/-- The line breaks inside block comments between the last line end in front of a token of a text
and the token. -/
def hiddenLines (lexicon : Lexicon) (source : String) (index : Nat) : Nat :=
  hiddenBreaks 0 (lexemesBefore lexicon index (lexemes source.toList))

/-- The line of a token is that of the line counter in front of it and the line breaks inside
comments that came behind the last line end. -/
theorem line_eq_lineBehind {setup : Setup} (htrack : setup.options.trackLines = true)
    {lexicon : Lexicon} {ls : List Lexeme} (hfit : Fitting ls) {place : Place} {line : Int}
    {hidden index : Nat} {t : Token} (hline : (place.line : Int) = line + hidden)
    (ht : (placeTokens lexicon place ls)[index]? = some t) :
    t.line = setup.lineBehind line ((placeTokens lexicon place ls).take index) +
      hiddenBreaks hidden (lexemesBefore lexicon index ls) := by
  induction ls generalizing place line hidden index with
  | nil =>
    obtain ⟨rfl, rfl⟩ : index = 0 ∧ t = .inputEnd place := by
      simpa [placeTokens, List.getElem?_singleton, eq_comm] using ht
    simpa [lexemesBefore, hiddenBreaks, Token.inputEnd, Token.placedAt] using hline
  | cons lexeme ls ih =>
    have hafter := hfit.1.line_after place
    cases hc : lexeme.content? lexicon with
    | none =>
      have hne : ∀ form, lexeme ≠ .lineBreak form := by
        rintro form rfl
        cases hc
      simp only [placeTokens, lexemesBefore, hc] at ht ⊢
      rw [hiddenBreaks.eq_3 _ _ _ hne]
      exact ih hfit.2 (by omega) ht
    | some content =>
      obtain ⟨kind, text⟩ := content
      simp only [placeTokens, lexemesBefore, hc] at ht ⊢
      cases index with
      | zero =>
        cases ht
        simpa [hiddenBreaks, Token.placedAt] using hline
      | succ index =>
        rw [List.getElem?_cons_succ] at ht
        rw [List.take_succ_cons, ← List.singleton_append, Setup.lineBehind_append]
        by_cases hkind : kind = .endOfLine
        · -- the line counter catches up
          obtain ⟨form, rfl⟩ := (Lexeme.kind_eq_endOfLine_iff hc).mp hkind
          have hbehind : setup.lineBehind line [.placedAt place kind text] = place.line + 1 := by
            simp [Setup.lineBehind, Token.placedAt, hkind, htrack]
          rw [hbehind]
          exact ih hfit.2 (by rw [hafter, Lexeme.breaks]; omega) ht
        · have hne := mt (Lexeme.kind_eq_endOfLine_iff hc).mpr hkind
          have hbehind : setup.lineBehind line [.placedAt place kind text] = line := by
            simp [Setup.lineBehind, Token.placedAt, hkind]
          rw [hbehind, hiddenBreaks.eq_3 _ _ _ fun form h ↦ hne ⟨form, h⟩]
          exact ih hfit.2 (by omega) ht

/-! ### The place of a diagnostic -/

/-- Where a checked text fails while lines are tracked, the diagnostic speaks of the token at the
cursor and has its column. The line is behind that of the token by the line breaks inside comments
that stand between the last line end and the token, so it is the line of the token exactly if there
are none. -/
theorem tracked_diagnostic_place {lexicon : Lexicon} {restore : Bool} {log : Option TraceLog}
    {source : String} {d : Diagnostic} {s' : State}
    (h : checkSource lexicon ⟨true, restore⟩ log source = (.failed d, s')) :
    ∃ t, (tokenize lexicon source)[s'.cursor.position]? = some t ∧
      d.kind = t.kind ∧ d.text = t.text ∧ d.column = some t.column ∧
      t.line = d.line + hiddenLines lexicon source s'.cursor.position ∧
      (d.line = t.line ↔ hiddenLines lexicon source s'.cursor.position = 0) := by
  let setup : Setup := ⟨.ofSource lexicon source, ⟨true, restore⟩⟩
  have hend : setup.tape.EndsOnce := Tape.endsOnce_ofSource lexicon source
  have htokens : setup.tape.tokens.toList = tokenize lexicon source := rfl
  have hruns : Runs setup (.rule .program) (.start log) (.failed d) s' :=
    Rule.runs_of_run hend.ends h
  have hsize : s'.cursor.position < setup.tape.size :=
    (hruns.reads (v := .failed d.complaint) rfl).lt_size_of_failed hend
  have hlook : (tokenize lexicon source)[s'.cursor.position]? =
      some (setup.tape.look s'.cursor.position) := by
    rw [← htokens]
    exact Tape.getElem?_eq_look hsize
  have hcounter : s'.cursor.line =
      setup.lineBehind 1 ((tokenize lexicon source).take s'.cursor.position) := by
    rw [← htokens, ← Tape.stretch_zero hsize.le]
    exact hruns.line_eq
  have hline : (setup.tape.look s'.cursor.position).line =
      s'.cursor.line + hiddenLines lexicon source s'.cursor.position := by
    have hplaced : (placeTokens lexicon .start (lexemes source.toList))[s'.cursor.position]? =
        some (setup.tape.look s'.cursor.position) := hlook
    rw [hcounter]
    exact line_eq_lineBehind rfl (fitting_lexemes source.toList) rfl hplaced
  rw [hruns.diagnostic_eq]
  exact ⟨_, hlook, rfl, rfl, rfl, hline, by dsimp only; omega⟩

/-- A line end uncovers the line break inside a comment in front of it: the closing brace on the
third line is complained about on that line. -/
theorem line_end_uncovers_line :
    let source := "Bug A \x7b /* one\ntwo */\nmove \x7d\n\x7d\n"
    ∃ d s', checkSource .standard ⟨true, false⟩ none source = (.failed d, s') ∧
      s'.cursor.position = 5 ∧
      ∃ t, (tokenize .standard source)[5]? = some t ∧ d.line = t.line ∧
        d.column = some t.column := by
  intro source
  have hfailed : (checkSource .standard ⟨true, false⟩ none source).1 =
      .failed ⟨.actionExpression .move, 3, some 6, .symbol, "\x7d"⟩ := by decide +kernel
  have hpos : (checkSource .standard ⟨true, false⟩ none source).2.cursor.position = 5 := by
    decide +kernel
  have hhidden : hiddenLines .standard source 5 = 0 := by decide +kernel
  generalize hcheck : checkSource .standard ⟨true, false⟩ none source = result at hfailed hpos
  obtain ⟨e, s'⟩ := result
  obtain rfl : e = _ := hfailed
  obtain ⟨t, ht, -, -, hcolumn, -, hline⟩ := tracked_diagnostic_place hcheck
  rw [show s'.cursor.position = 5 from hpos] at ht hline
  exact ⟨_, s', rfl, hpos, t, ht, hline.mpr hhidden, hcolumn⟩

/-- A comment on the line of the token hides it: the closing brace on the third line is complained
about on the second line, with its column on the third. -/
theorem comment_hides_line :
    let source := "Bug A \x7b\nmove /* one\ntwo */ \x7d\n\x7d\n"
    ∃ d s', checkSource .standard ⟨true, false⟩ none source = (.failed d, s') ∧
      ∃ t, (tokenize .standard source)[s'.cursor.position]? = some t ∧ d.kind = t.kind ∧
        d.text = t.text ∧ d.line = 2 ∧ t.line = 3 ∧ d.column = some 8 ∧ t.column = 8 := by
  intro source
  have hfailed : (checkSource .standard ⟨true, false⟩ none source).1 =
      .failed ⟨.actionExpression .move, 2, some 8, .symbol, "\x7d"⟩ := by decide +kernel
  have htoken : (tokenize .standard source)[
      (checkSource .standard ⟨true, false⟩ none source).2.cursor.position]? =
      some ⟨.symbol, "\x7d", 3, 8⟩ := by decide +kernel
  exact ⟨_, _, Prod.ext hfailed rfl, _, htoken, rfl, rfl, rfl, rfl, rfl, rfl⟩

end Bugs
