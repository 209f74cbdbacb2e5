import Bugs.Toml.Value

/-!
# Texts, numbers and moments of a TOML document

Each reader takes the characters from where its value starts and returns the value with
the characters behind it. A number or a moment that is only begun is read as far as it
goes; what is left then fails as the rest of the line.
-/

namespace Bugs.Toml

/-- A reader of the characters of a document. -/
abbrev Reader (α : Type) := List Char → Except Fault (α × List Char)

/-- Blanks within a line. -/
def isBlank (c : Char) : Bool :=
  c = ' ' || c = '\t'

/-- Blanks and line ends. -/
def isFiller (c : Char) : Bool :=
  isBlank c || c = '\n'

/-- The control characters, of which only the tab may stand in a text or a comment. -/
def isControl (c : Char) : Bool :=
  (c.toNat < 32 && c ≠ '\t') || c.toNat = 127

/-! ## Texts -/

/-- A hexadecimal digit. -/
def isHexDigit (c : Char) : Bool :=
  c.isDigit || ('a' ≤ c && c ≤ 'f') || ('A' ≤ c && c ≤ 'F')

/-- The value of a hexadecimal digit. -/
def hexDigit (c : Char) : Nat :=
  if c.isDigit then c.toNat - '0'.toNat else c.toLower.toNat - 'a'.toNat + 10

/-- The character whose code the digits give; surrogates and larger codes have none. -/
def hexChar? (digits : List Char) : Option Char :=
  let code := digits.foldl (fun n c ↦ 16 * n + hexDigit c) 0
  if digits.all isHexDigit ∧ code.isValidChar then some (Char.ofNat code) else none

/-- The character that a letter behind a backslash stands for. -/
def escaped? : Char → Option Char
  | 'b' => some '\x08'
  | 't' => some '\t'
  | 'n' => some '\n'
  | 'f' => some '\x0c'
  | 'r' => some '\r'
  | '"' => some '"'
  | '\\' => some '\\'
  | _ => none

/-- Puts a character in front of the text that a reader returned. -/
def pushFront (c : Char) (read : Except Fault (List Char × List Char)) :
    Except Fault (List Char × List Char) :=
  read.map fun (text, rest) ↦ (c :: text, rest)

/-- One or two quotes directly behind a closing delimiter belong to the text. -/
def closingQuotes (quote : Char) : List Char → List Char × List Char
  | [] => ([], [])
  | [c] => if c = quote then ([c], []) else ([], [c])
  | c :: d :: rest =>
    if c ≠ quote then ([], c :: d :: rest)
    else if d ≠ quote then ([c], d :: rest)
    else ([c, d], rest)

/-- Reads a text with escapes behind its opening quote. Over several lines, a backslash at
the end of a line drops the filler that follows. -/
def readBasic (multiline skipping : Bool) : Reader (List Char)
  | [] => .error .openText
  | '\\' :: 'u' :: a :: b :: c :: d :: rest =>
    match hexChar? [a, b, c, d] with
    | some char => pushFront char (readBasic multiline false rest)
    | none => .error .escape
  | '\\' :: 'U' :: a :: b :: c :: d :: e :: f :: g :: h :: rest =>
    match hexChar? [a, b, c, d, e, f, g, h] with
    | some char => pushFront char (readBasic multiline false rest)
    | none => .error .escape
  | '\\' :: c :: rest =>
    match escaped? c with
    | some char => pushFront char (readBasic multiline false rest)
    | none =>
      if multiline ∧ isFiller c then
        match (c :: rest).dropWhile isBlank with
        | [] => .error .openText
        | next :: _ => if next = '\n' then readBasic true true rest else .error .escape
      else .error .escape
  | '"' :: rest =>
    if multiline then
      match rest with
      | '"' :: '"' :: after => .ok (closingQuotes '"' after)
      | _ => pushFront '"' (readBasic true false rest)
    else .ok ([], rest)
  | c :: rest =>
    if skipping ∧ isFiller c then readBasic multiline true rest
    else if isControl c ∧ ¬(multiline ∧ c = '\n') then .error .control
    else pushFront c (readBasic multiline false rest)

/-- Reads a text without escapes behind its opening quote. -/
def readLiteral (multiline : Bool) : Reader (List Char)
  | [] => .error .openText
  | '\'' :: rest =>
    if multiline then
      match rest with
      | '\'' :: '\'' :: after => .ok (closingQuotes '\'' after)
      | _ => pushFront '\'' (readLiteral true rest)
    else .ok ([], rest)
  | c :: rest =>
    if isControl c ∧ ¬(multiline ∧ c = '\n') then .error .control
    else pushFront c (readLiteral multiline rest)

/-- A line end directly behind an opening delimiter is not part of the text. -/
def dropFirstBreak : List Char → List Char
  | '\n' :: rest => rest
  | rest => rest

/-- Reads a text in any of its four forms, from its opening quote on. -/
def readText : Reader String := fun source ↦
  let read := match source with
    | '"' :: '"' :: '"' :: rest => readBasic true false (dropFirstBreak rest)
    | '\'' :: '\'' :: '\'' :: rest => readLiteral true (dropFirstBreak rest)
    | '"' :: rest => readBasic false false rest
    | '\'' :: rest => readLiteral false rest
    | _ => .error .value
  read.map fun (text, rest) ↦ (String.ofList text, rest)

/-! ## Numbers -/

/-- What follows digits, between which single underscores may stand. -/
def afterDigits (isDigit : Char → Bool) : List Char → List Char
  | [] => []
  | [c] => if isDigit c then [] else [c]
  | c :: d :: rest =>
    if isDigit c then afterDigits isDigit (d :: rest)
    else if c = '_' ∧ isDigit d then afterDigits isDigit (d :: rest)
    else c :: d :: rest

/-- What follows a mark and at least one digit; without them nothing is taken. -/
def afterMarked (isMark isDigit : Char → Bool) : List Char → List Char
  | c :: d :: rest =>
    if isMark c ∧ isDigit d then afterDigits isDigit (d :: rest) else c :: d :: rest
  | source => source

/-- What follows an exponent; without one nothing is taken. -/
def afterExponent : List Char → List Char
  | e :: sign :: d :: rest =>
    if (e = 'e' ∨ e = 'E') ∧ (sign = '+' ∨ sign = '-') ∧ d.isDigit then
      afterDigits Char.isDigit (d :: rest)
    else afterMarked (fun c ↦ c = 'e' || c = 'E') Char.isDigit (e :: sign :: d :: rest)
  | source => afterMarked (fun c ↦ c = 'e' || c = 'E') Char.isDigit source

/-- The most digits that a whole number in decimal is read with. -/
def digitLimit : Nat :=
  4300

/-- How many digits stand in front of the rest of a text. -/
def digitsBefore (source rest : List Char) : Nat :=
  (source.take (source.length - rest.length)).countP Char.isDigit

/-- What follows a decimal number, if one starts here. Without a point and an exponent it is a
whole number, and the number of its digits is limited. -/
def afterDecimal : List Char → Except Fault (List Char)
  | [] => .error .value
  | c :: rest =>
    if c.isDigit then
      let whole := if c = '0' then rest else afterDigits Char.isDigit (c :: rest)
      let after := afterExponent (afterMarked (· = '.') Char.isDigit whole)
      if after = whole ∧ digitLimit < digitsBefore (c :: rest) whole then .error .oversized
      else .ok after
    else .error .value

/-- What follows a number without a sign, if one starts here. -/
def afterUnsigned (source : List Char) : Except Fault (List Char) :=
  match source with
  | 'i' :: 'n' :: 'f' :: rest => .ok rest
  | 'n' :: 'a' :: 'n' :: rest => .ok rest
  | _ => afterDecimal source

/-- The digits of the base that a letter behind a zero announces. -/
def baseDigits? : Char → Option (Char → Bool)
  | 'x' => some isHexDigit
  | 'o' => some fun c ↦ '0' ≤ c && c ≤ '7'
  | 'b' => some fun c ↦ c = '0' || c = '1'
  | _ => none

/-- What follows a number, if one starts here. The digits of another base are not limited. -/
def afterNumber (source : List Char) : Except Fault (List Char) :=
  match source with
  | '+' :: rest => afterUnsigned rest
  | '-' :: rest => afterUnsigned rest
  | '0' :: letter :: digit :: rest =>
    match baseDigits? letter with
    | some isDigit =>
      if isDigit digit then .ok (afterDigits isDigit (digit :: rest))
      else afterUnsigned source
    | none => afterUnsigned source
  | _ => afterUnsigned source

/-! ## Moments -/

/-- The number that decimal digits form, if they are digits. -/
def digitsValue? (digits : List Char) : Option Nat :=
  if digits.all Char.isDigit then
    some (digits.foldl (fun n c ↦ 10 * n + (c.toNat - '0'.toNat)) 0)
  else none

/-- The number of days of a month. -/
def daysInMonth (year month : Nat) : Nat :=
  if month = 2 then
    if year % 4 = 0 ∧ (year % 100 ≠ 0 ∨ year % 400 = 0) then 29 else 28
  else if month = 4 ∨ month = 6 ∨ month = 9 ∨ month = 11 then 30
  else 31

/-- What follows the form of a date, if it starts here, and whether that date exists. -/
def afterDate? : List Char → Option (Bool × List Char)
  | a :: b :: c :: d :: '-' :: e :: f :: '-' :: g :: h :: rest => do
    let year ← digitsValue? [a, b, c, d]
    let month ← digitsValue? [e, f]
    let day ← digitsValue? [g, h]
    let valid := 1 ≤ year ∧ 1 ≤ month ∧ month ≤ 12 ∧ 1 ≤ day ∧ day ≤ daysInMonth year month
    some (decide valid, rest)
  | _ => none

/-- What follows an hour and a minute, if they start here. -/
def afterHourMinute? : List Char → Option (List Char)
  | a :: b :: ':' :: c :: d :: rest => do
    let hour ← digitsValue? [a, b]
    let minute ← digitsValue? [c, d]
    if hour < 24 ∧ minute < 60 then some rest else none
  | _ => none

/-- What follows a time of day, if one starts here. -/
def afterTime? (source : List Char) : Option (List Char) := do
  match ← afterHourMinute? source with
  | ':' :: e :: f :: rest =>
    let second ← digitsValue? [e, f]
    if second < 60 then
      match rest with
      | '.' :: d :: more =>
        if d.isDigit then some (more.dropWhile Char.isDigit) else some rest
      | _ => some rest
    else none
  | _ => none

/-- What follows the distance from universal time; without one nothing is taken. -/
def afterOffset : List Char → List Char
  | [] => []
  | c :: rest =>
    if c = 'Z' ∨ c = 'z' then rest
    else if c = '+' ∨ c = '-' then (afterHourMinute? rest).getD (c :: rest)
    else c :: rest

/-- What follows the time of day behind a date; without one nothing is taken. -/
def afterTimeOfDate : List Char → List Char
  | [] => []
  | c :: rest =>
    if c = 'T' ∨ c = 't' ∨ c = ' ' then
      match afterTime? rest with
      | some after => afterOffset after
      | none => c :: rest
    else c :: rest

/-- Reads a moment or a number. -/
def readQuantity : Reader Value := fun source ↦
  match afterDate? source with
  | some (true, rest) => .ok (.moment, afterTimeOfDate rest)
  | some (false, _) => .error .date
  | none =>
    match afterTime? source with
    | some rest => .ok (.moment, rest)
    | none => (afterNumber source).map (.number, ·)

/-! ## Whole numbers -/

section WholeNumbers

variable {digits rest : List Char}

/-- Digits are read up to what follows them. -/
theorem afterDigits_append {isDigit : Char → Bool} (hdigits : ∀ c ∈ digits, isDigit c = true)
    (hrest : ∀ c ∈ rest.head?, isDigit c = false ∧ c ≠ '_') :
    afterDigits isDigit (digits ++ rest) = rest := by
  induction digits with
  | nil =>
    match rest with
    | [] => rfl
    | [c] => simp [afterDigits, (hrest c rfl).1]
    | c :: d :: rest => simp [afterDigits, hrest c rfl]
  | cons c digits ih =>
    obtain ⟨hc, hdigits⟩ := List.forall_mem_cons.mp hdigits
    have hnext := ih hdigits
    rw [List.cons_append]
    cases htail : digits ++ rest with
    | nil =>
      rw [htail] at hnext
      simpa [afterDigits, hc] using hnext
    | cons d tail =>
      rw [htail] at hnext
      rw [afterDigits, if_pos hc, hnext]

theorem afterMarked_of_head? {isMark : Char → Bool} (isDigit : Char → Bool)
    (h : ∀ c ∈ rest.head?, isMark c = false) : afterMarked isMark isDigit rest = rest := by
  match rest with
  | [] | [c] => rfl
  | c :: d :: rest => simp [afterMarked, h c rfl]

theorem afterExponent_of_head? (h : ∀ c ∈ rest.head?, c ≠ 'e' ∧ c ≠ 'E') :
    afterExponent rest = rest := by
  have hmark : ∀ c ∈ rest.head?, (c = 'e' || c = 'E') = false := by simpa using h
  match rest with
  | [] | [c] | [c, d] => exact afterMarked_of_head? Char.isDigit hmark
  | c :: d :: e :: rest =>
    rw [afterExponent, if_neg (by simp [h c rfl])]
    exact afterMarked_of_head? Char.isDigit hmark

/-- A whole number in decimal is read if it has no more digits than the limit. -/
theorem afterDecimal_append (hdigits : ∀ c ∈ digits, c.isDigit = true)
    (hhead : ∃ c ∈ digits.head?, c ≠ '0')
    (hrest : ∀ c ∈ rest.head?, c.isDigit = false ∧ c ∉ ['_', '.', 'e', 'E']) :
    afterDecimal (digits ++ rest) =
      if digitLimit < digits.length then .error .oversized else .ok rest := by
  simp only [List.mem_cons, List.not_mem_nil, or_false, not_or] at hrest
  cases digits with
  | nil => simp at hhead
  | cons c digits =>
    have hzero : c ≠ '0' := by simpa using hhead
    have hwhole : afterDigits Char.isDigit (c :: (digits ++ rest)) = rest :=
      List.cons_append ▸ afterDigits_append hdigits fun c hc ↦ ⟨(hrest c hc).1, (hrest c hc).2.1⟩
    have hpoint : afterMarked (· = '.') Char.isDigit rest = rest :=
      afterMarked_of_head? Char.isDigit fun c hc ↦ by simpa using (hrest c hc).2.2.1
    have hexponent : afterExponent rest = rest :=
      afterExponent_of_head? fun c hc ↦ (hrest c hc).2.2.2
    have hcount : digitsBefore (c :: digits ++ rest) rest = (c :: digits).length := by
      rw [digitsBefore, List.length_append, Nat.add_sub_cancel, List.take_left,
        List.countP_eq_length.mpr hdigits]
    rw [List.cons_append] at hcount ⊢
    simp only [afterDecimal, if_pos (hdigits c List.mem_cons_self), if_neg hzero, hwhole, hpoint,
      hexponent, hcount, true_and]

theorem afterNumber_cons {c : Char} (hdigit : c.isDigit = true) (hzero : c ≠ '0') :
    afterNumber (c :: rest) = afterDecimal (c :: rest) := by
  have hsign : c ≠ '+' ∧ c ≠ '-' ∧ c ≠ 'i' ∧ c ≠ 'n' := by
    refine ⟨?_, ?_, ?_, ?_⟩ <;> rintro rfl <;> cases hdigit
  simp [afterNumber, afterUnsigned, hzero, hsign]

theorem readQuantity_of_long (hdigits : ∀ c ∈ digits, c.isDigit = true)
    (hhead : ∃ c ∈ digits.head?, c ≠ '0') (hlong : digitLimit < digits.length) :
    readQuantity digits = .error .oversized := by
  have hread : afterDecimal digits = .error .oversized := by
    have h : afterDecimal (digits ++ []) = _ := afterDecimal_append hdigits hhead (by simp)
    rwa [List.append_nil, if_pos hlong] at h
  rcases digits with _ | ⟨a, _ | ⟨b, _ | ⟨c, _ | ⟨d, _ | ⟨e, tail⟩⟩⟩⟩⟩
  iterate 5 simp [digitLimit] at hlong
  simp only [List.forall_mem_cons, List.head?_cons, Option.mem_some_iff, exists_eq_left']
    at hdigits hhead
  have hcolon : c ≠ ':' := by rintro rfl; simp at hdigits
  have hminus : e ≠ '-' := by rintro rfl; simp at hdigits
  have hnumber : afterNumber (a :: b :: c :: d :: e :: tail) = .error .oversized :=
    (afterNumber_cons hdigits.1 hhead).trans hread
  simp [readQuantity, afterDate?, afterTime?, afterHourMinute?, hcolon, hminus, hnumber, Except.map]

end WholeNumbers

end Bugs.Toml
