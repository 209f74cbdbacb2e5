import Bugs.Proofs.Grammar.Completeness
import Bugs.Proofs.Termination

/-!
# What is accepted is what the grammar derives

A nonterminal that is run on a token list and an end of the input matches and stops at that end
exactly if the grammar derives the list from it, and a program text is accepted exactly if its
tokens are derived from the program. The grammar is the lenient one unless signs are restored.

Both halves hold of the readings of a matcher: what is read is derived, and what is derived is
read in front of an end of the input. For a whole program it remains to see that it ends with
the last token of the tape, and that the tokens of a text hold one end of the input, at the end.

## Main results

* `Rule.program_matched_iff`: programs on a tape that ends once.
* `matched_iff_derives`: program texts, and nonterminals on lists of tokens.
-/

namespace Bugs

variable {setup : Setup}

/-! ### Whole tapes -/

theorem Reads.succ_lt_size {tape : Tape} {rule : Rule} {restore : Bool} {p q : Nat}
    (hend : tape.Ends) (h : Reads tape.look restore (.rule rule) p .matched q) :
    p + 1 < tape.size := by
  refine Nat.lt_of_not_le fun hle ↦ ?_
  have hun : Reads tape.look restore (.rule rule) p .unmatched p :=
    rule.reads_of_not_starts (rule.starts_of_kind (hend.kind_look hle))
  cases (h.deterministic hun).1

theorem Reads.le_size {tape : Tape} {rule : Rule} {restore : Bool} {p q : Nat}
    (hend : tape.Ends) (h : Reads tape.look restore (.rule rule) p .matched q) :
    p < q ∧ q ≤ tape.size := by
  refine ⟨h.lt_of_matched, Nat.le_of_not_lt fun hlt ↦ ?_⟩
  have hp := h.succ_lt_size hend
  -- Otherwise there is a token behind the end of the input.
  have hsplit : stretch tape.look p q = stretch tape.look p (tape.size - 1) ++
      tape.look (tape.size - 1) :: stretch tape.look (tape.size - 1 + 1) q := by
    rw [← List.singleton_append, ← stretch_succ, stretch_append tape.look (by omega) (by omega),
      stretch_append tape.look (by omega) (by omega)]
  obtain ⟨-, hnil⟩ := Rule.eq_program_of_mem (hsplit ▸ Rule.mem_language.mpr h.derives) hend
  have hlength := congrArg List.length hnil
  rw [length_stretch, List.length_nil] at hlength
  omega

/-- A program that was read ends where the tape ends. -/
theorem Reads.eq_size_of_program {tape : Tape} {restore : Bool} {p q : Nat} (hend : tape.EndsOnce)
    (h : Reads tape.look restore (.rule .program) p .matched q) : q = tape.size := by
  obtain ⟨hlt, hle⟩ := h.le_size hend.ends
  obtain ⟨q, rfl⟩ := Nat.exists_eq_add_of_lt (Nat.zero_lt_of_lt hlt)
  obtain ⟨body, last, hw, -, hlast⟩ :=
    Rule.eq_append_of_mem_program (Rule.mem_language.mpr h.derives)
  have hlook : (stretch tape.look p (0 + q + 1)).getLast? = some last := by
    rw [hw, List.getLast?_concat]
  rw [getLast?_stretch tape.look (by omega), Option.some_inj] at hlook
  exact (hend _ (by omega)).mp (hlook ▸ hlast)

/-- On a tape that ends once, a program is accepted if the grammar derives the tokens of the tape
from it. -/
theorem Rule.program_matched_iff {tape : Tape} (hend : tape.EndsOnce) (options : Options)
    {s : State} (hs : s.cursor.position = 0) :
    (Rule.program.run ⟨tape, options⟩ s).1 = .matched ↔
      Rule.program.Derives (!options.restoreSign) tape.tokens.toList := by
  let setup : Setup := ⟨tape, options⟩
  have hends : setup.tape.Ends := hend.ends
  constructor
  · intro h
    have hr := reads_of_run hends (v := .matched) (Prod.ext h rfl) rfl
    rw [hs] at hr
    have hd := hr.derives
    rwa [hr.eq_size_of_program hend, Tape.stretch_all] at hd
  · intro h
    have hr := consumes h tape.look 0 (by simpa [Tape.size] using tape.stretch_all) rfl
    rw [← hs] at hr
    exact Ending.verdict?_eq_matched.mp (run_of_reads hends hr).1

/-! ### The tokens of a text -/

theorem Lexeme.kind_ne_of_content {lexicon : Lexicon} {lexeme : Lexeme} {kind : TokenKind}
    {text : String} (h : lexeme.content? lexicon = some (kind, text)) : kind ≠ .endOfInput := by
  cases lexeme with
  | blank | lineComment | blockComment => cases h
  | word letters =>
    simp only [content?, Lexicon.wordKind, Option.some.injEq, Prod.mk.injEq] at h
    rw [← h.1]
    split <;> simp
  | lineBreak | number | quoted | symbol =>
    simp only [content?, Option.some.injEq, Prod.mk.injEq] at h
    rw [← h.1]
    simp

/-- The tokens of lexemes hold one end of the input, at the end. -/
theorem placeTokens_eq_append (lexicon : Lexicon) (place : Place) (ls : List Lexeme) :
    ∃ body place', placeTokens lexicon place ls = body ++ [.inputEnd place'] ∧
      ∀ t ∈ body, t.kind ≠ .endOfInput := by
  induction ls generalizing place with
  | nil => exact ⟨[], place, rfl, by simp⟩
  | cons lexeme rest ih =>
    obtain ⟨body, place', hrest, hbody⟩ := ih (place.after lexeme.spelling)
    rw [placeTokens]
    split
    · rename_i kind text hc
      refine ⟨.placedAt place kind text :: body, place', by rw [hrest, List.cons_append], ?_⟩
      exact List.forall_mem_cons.mpr ⟨Lexeme.kind_ne_of_content hc, hbody⟩
    · exact ⟨body, place', hrest, hbody⟩

/-- The tape of a text ends once. -/
theorem Tape.endsOnce_ofSource (lexicon : Lexicon) (source : String) :
    (ofSource lexicon source).EndsOnce := by
  obtain ⟨body, place, h, hbody⟩ := placeTokens_eq_append lexicon .start (lexemes source.toList)
  have htape : ofSource lexicon source = closing body (.inputEnd place) := eq_closing h
  rw [htape]
  exact endsOnce_closing hbody rfl

/-! ### Acceptance -/

/-- A nonterminal matches a list in front of an end of the input and stops there if the grammar
derives the list from it. -/
private theorem Rule.matched_closing_iff {rule : Rule} {w : List Token} {last : Token} {s : State}
    (htape : setup.tape = .closing w last) (hlast : last.kind = .endOfInput)
    (hs : s.cursor.position = 0) :
    (∃ s', rule.run setup s = (.matched, s') ∧ s'.cursor.position = w.length) ↔
      rule.Derives (!setup.options.restoreSign) w := by
  have hend : setup.tape.Ends := by
    rw [htape, Tape.Ends, Tape.look_closing (by simp)]
    exact hlast
  constructor
  · rintro ⟨s', h, hp⟩
    have hr := reads_of_run hend (v := .matched) h rfl
    rw [hs, hp] at hr
    simpa [htape] using hr.derives
  · intro h
    have hr : Reads setup.tape.look setup.options.restoreSign (.rule rule) 0 .matched _ :=
      reads_of_mem h (by simp [htape]) (by simpa [htape, Tape.look_closing] using hlast)
    rw [Nat.zero_add, ← hs] at hr
    obtain ⟨hv, hp⟩ := run_of_reads hend hr
    exact ⟨_, Prod.ext (Ending.verdict?_eq_matched.mp hv) rfl, hp⟩

/-- A program text is accepted exactly if the grammar derives its tokens from the program. A
nonterminal that is run from the beginning of a list of tokens and an end of the input matches and
stops at that end exactly if the grammar derives the list from it. -/
theorem matched_iff_derives (options : Options) (log : Option TraceLog) :
    (∀ (lexicon : Lexicon) (source : String),
      (checkSource lexicon options log source).1 = .matched ↔
        Rule.program.Derives (!options.restoreSign) (tokenize lexicon source)) ∧
    ∀ (rule : Rule) (w : List Token) (last : Token) (s : State),
      last.kind = .endOfInput → s.cursor.position = 0 →
      ((∃ s', rule.run ⟨.closing w last, options⟩ s = (.matched, s') ∧
          s'.cursor.position = w.length) ↔ rule.Derives (!options.restoreSign) w) := by
  constructor
  · intro lexicon source
    exact Rule.program_matched_iff (Tape.endsOnce_ofSource lexicon source) options rfl
  · intro rule w last s hlast hs
    let setup : Setup := ⟨.closing w last, options⟩
    have htape : setup.tape = .closing w last := rfl
    exact Rule.matched_closing_iff htape hlast hs

/-- A minus sign between parentheses is a parameter list where signs are dropped, and it is none
where they are restored. -/
theorem lone_sign_parameterList :
    let tokens : List Token :=
      [⟨.symbol, "(", 1, 1⟩, ⟨.symbol, "-", 1, 2⟩, ⟨.symbol, ")", 1, 3⟩]
    let last : Token := ⟨.endOfInput, "EOF", 1, 4⟩
    (∃ s, Rule.parameterList.run ⟨.closing tokens last, ⟨false, false⟩⟩ (.start none) =
        (.matched, s) ∧ s.cursor.position = 3) ∧
      ¬ Rule.parameterList.Derives false tokens := by
  intro tokens last
  have hdrop := (matched_iff_derives ⟨false, false⟩ none).2 .parameterList tokens last
    (.start none) rfl rfl
  have hrestore := (matched_iff_derives ⟨false, true⟩ none).2 .parameterList tokens last
    (.start none) rfl rfl
  refine ⟨hdrop.mpr (.loneSign rfl (by decide) (.inr (by decide)) (by decide)), fun h ↦ ?_⟩
  obtain ⟨s, hrun, -⟩ := hrestore.mpr h
  have hne : (Rule.parameterList.run ⟨.closing tokens last, ⟨false, true⟩⟩ (.start none)).1 ≠
      .matched := by decide +kernel
  exact hne (congrArg Prod.fst hrun)

end Bugs
