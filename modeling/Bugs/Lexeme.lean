/-!
# Lexemes

A program text is cut, from left to right and without a gap, into lexemes: blanks,
comments, line breaks, numbers, words, quoted texts and single symbols. The cut never
fails, and the lexemes written one after another give the text back
(`flatMap_spelling_lexemes`). Which words are keywords plays no part here.
-/

namespace Bugs

/-- The three ways in which a line ends. -/
inductive LineBreak where
  | lineFeed
  | carriageReturn
  /-- A carriage return directly before a line feed is one break. -/
  | pair
deriving Repr, DecidableEq

/-- The characters of a line break. -/
def LineBreak.spelling : LineBreak → List Char
  | lineFeed => ['\n']
  | carriageReturn => ['\r']
  | pair => ['\r', '\n']

/-- A piece of a program text that belongs together. -/
inductive Lexeme where
  | blank (char : Char)
  /-- The body follows two slashes and ends before the line break. -/
  | lineComment (body : List Char)
  /-- A block comment that is not closed runs to the end of the text. -/
  | blockComment (body : List Char) (closed : Bool)
  | lineBreak (form : LineBreak)
  | number (digits : List Char)
  | word (letters : List Char)
  /-- A quoted text that is not closed ends before the line break or with the text. -/
  | quoted (body : List Char) (closed : Bool)
  | symbol (char : Char)
deriving Repr, DecidableEq

/-- The characters that a lexeme occupies in the text. -/
def Lexeme.spelling : Lexeme → List Char
  | blank char => [char]
  | lineComment body => '/' :: '/' :: body
  | blockComment body closed => '/' :: '*' :: body ++ if closed then ['*', '/'] else []
  | lineBreak form => form.spelling
  | number digits => digits
  | word letters => letters
  | quoted body closed => '"' :: body ++ if closed then ['"'] else []
  | symbol char => [char]

/-! ## Character classes -/

/-- The characters that break a line. -/
def isBreak (c : Char) : Bool :=
  c = '\n' || c = '\r'

/-- The codes up to 32 that break no line are blanks. -/
def isBlank (c : Char) : Bool :=
  c.toNat ≤ 32 && !isBreak c

/-- Words start with an ASCII letter or with any character from U+00A0 upwards. -/
def isWordStart (c : Char) : Bool :=
  c.isAlpha || 0xA0 ≤ c.toNat

/-- Words go on with the characters that start one and with ASCII digits. -/
def isWordPart (c : Char) : Bool :=
  isWordStart c || c.isDigit

/-! ## Cutting off the first lexeme -/

/-- Splits at the first `*/`; without one there is no remainder. -/
def splitBlockComment : List Char → List Char × Option (List Char)
  | [] => ([], none)
  | '*' :: '/' :: rest => ([], some rest)
  | c :: rest =>
    let split := splitBlockComment rest
    (c :: split.1, split.2)

/-- Splits a quoted text from what follows it, and tells whether it was closed. -/
def splitQuoted : List Char → List Char × Bool × List Char
  | [] => ([], false, [])
  | c :: rest =>
    if c = '"' then ([], true, rest)
    else if isBreak c then ([], false, c :: rest)
    else
      let split := splitQuoted rest
      (c :: split.1, split.2)

/-- Splits digits, at most one point and the digits after it from what follows. The point
belongs to the number even if no digit follows it. -/
def splitNumber (source : List Char) : List Char × List Char :=
  let whole := source.takeWhile Char.isDigit
  match source.dropWhile Char.isDigit with
  | '.' :: rest => (whole ++ '.' :: rest.takeWhile Char.isDigit, rest.dropWhile Char.isDigit)
  | rest => (whole, rest)

/-- Cuts the first lexeme off a text that is not empty. -/
def Lexeme.read (c : Char) (rest : List Char) : Lexeme × List Char :=
  match c, rest with
  | '\n', rest => (lineBreak .lineFeed, rest)
  | '\r', '\n' :: rest => (lineBreak .pair, rest)
  | '\r', rest => (lineBreak .carriageReturn, rest)
  | '/', '/' :: rest =>
    (lineComment (rest.takeWhile (!isBreak ·)), rest.dropWhile (!isBreak ·))
  | '/', '*' :: rest =>
    match splitBlockComment rest with
    | (body, some after) => (blockComment body true, after)
    | (body, none) => (blockComment body false, [])
  | '"', rest =>
    let split := splitQuoted rest
    (quoted split.1 split.2.1, split.2.2)
  | c, rest =>
    if isBlank c then (blank c, rest)
    else if c.isDigit then
      let split := splitNumber (c :: rest)
      (number split.1, split.2)
    else if isWordStart c then
      (word (c :: rest.takeWhile isWordPart), rest.dropWhile isWordPart)
    else (symbol c, rest)

/-! ## Nothing is lost -/

theorem splitBlockComment_append (source : List Char) :
    (splitBlockComment source).1 ++
      (match (splitBlockComment source).2 with
        | some after => '*' :: '/' :: after
        | none => []) = source := by
  induction source using splitBlockComment.induct with
  | case1 => rfl
  | case2 rest => simp [splitBlockComment]
  | case3 c rest h ih =>
    rw [splitBlockComment]
    · simpa using ih
    · exact h

private theorem splitQuoted_append (source : List Char) :
    (splitQuoted source).1 ++ (if (splitQuoted source).2.1 then ['"'] else []) ++
      (splitQuoted source).2.2 = source := by
  induction source with
  | nil => rfl
  | cons c rest ih =>
    unfold splitQuoted
    split
    · simp_all
    · split
      · simp
      · simpa using ih

private theorem splitNumber_append (source : List Char) :
    (splitNumber source).1 ++ (splitNumber source).2 = source := by
  unfold splitNumber
  have whole := source.takeWhile_append_dropWhile (p := Char.isDigit)
  split
  · rename_i rest h
    rw [h] at whole
    simpa [List.takeWhile_append_dropWhile] using whole
  · exact whole

/-- A lexeme's spelling and the rest make up the text it was cut from. -/
theorem Lexeme.spelling_read (c : Char) (rest : List Char) :
    (read c rest).1.spelling ++ (read c rest).2 = c :: rest := by
  unfold read
  split
  · rfl
  · rfl
  · rfl
  · simp [spelling, List.takeWhile_append_dropWhile]
  · rename_i rest
    have whole := splitBlockComment_append rest
    split <;> rename_i h <;> rw [h] at whole <;> simpa [spelling] using whole
  · simpa [spelling] using splitQuoted_append _
  · split
    · rfl
    · split
      · exact splitNumber_append _
      · split
        · simp [spelling, List.takeWhile_append_dropWhile]
        · rfl

/-- A lexeme occupies at least one character. -/
theorem Lexeme.spelling_read_ne_nil (c : Char) (rest : List Char) :
    (read c rest).1.spelling ≠ [] := by
  unfold read
  split
  · simp [spelling, LineBreak.spelling]
  · simp [spelling, LineBreak.spelling]
  · simp [spelling, LineBreak.spelling]
  · simp [spelling]
  · split <;> simp [spelling]
  · simp [spelling]
  · split
    · simp [spelling]
    · split
      · rename_i digit
        simp only [spelling, splitNumber, List.takeWhile_cons, digit, if_true]
        split <;> simp
      · split <;> simp [spelling]

theorem Lexeme.length_read_lt (c : Char) (rest : List Char) :
    (read c rest).2.length < (c :: rest).length := by
  have whole := congrArg List.length (spelling_read c rest)
  have size := List.length_pos_iff.mpr (spelling_read_ne_nil c rest)
  rw [List.length_append] at whole
  omega

/-! ## The whole text -/

/-- The lexemes of a text. -/
def lexemes : List Char → List Lexeme
  | [] => []
  | c :: rest => (Lexeme.read c rest).1 :: lexemes (Lexeme.read c rest).2
termination_by source => source.length
decreasing_by exact Lexeme.length_read_lt c rest

/-- The lexemes account for every character of the text, in order. -/
theorem flatMap_spelling_lexemes (source : List Char) :
    (lexemes source).flatMap Lexeme.spelling = source := by
  induction source using lexemes.induct with
  | case1 => simp [lexemes]
  | case2 c rest ih => rw [lexemes, List.flatMap_cons, ih, Lexeme.spelling_read]

end Bugs
