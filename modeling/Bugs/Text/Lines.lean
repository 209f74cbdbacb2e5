/-!
# Lines of a text

A text is cut into lines at separator characters. A carriage return directly before a
line feed is one separator with it, and a separator at the very end opens no further line.
Which characters separate is a parameter; a printed excerpt uses `isLineSeparator`. Cutting
at a single character (`splitAt`) is simpler: n occurrences leave n + 1 pieces.
-/

namespace Bugs.Text

/-- The characters that end a line of a printed excerpt. -/
def isLineSeparator (c : Char) : Bool :=
  c ∈ ['\n', '\x0b', '\x0c', '\r', '\x1c', '\x1d', '\x1e', '\u0085', '\u2028', '\u2029']

/-- Puts a character in front of the first line. -/
def prepend (c : Char) : List (List Char) → List (List Char)
  | [] => [[c]]
  | line :: lines => (c :: line) :: lines

/-- The lines of a text between the separators. -/
def splitLines (separates : Char → Bool) : List Char → List (List Char)
  | [] => []
  | '\r' :: '\n' :: rest => [] :: splitLines separates rest
  | c :: rest =>
    if separates c then [] :: splitLines separates rest
    else prepend c (splitLines separates rest)

/-- Cuts a text at every occurrence of a character. -/
def splitAt (separator : Char) : List Char → List (List Char)
  | [] => [[]]
  | c :: rest =>
    if c = separator then [] :: splitAt separator rest
    else prepend c (splitAt separator rest)

/-- Writes every line break of a text as a line feed. -/
def unifyBreaks : List Char → List Char
  | [] => []
  | '\r' :: '\n' :: rest => '\n' :: unifyBreaks rest
  | '\r' :: rest => '\n' :: unifyBreaks rest
  | c :: rest => c :: unifyBreaks rest

section UnifiedBreaks

variable {c : Char} {rest source : List Char}

theorem unifyBreaks_cons (hc : c ≠ '\r') : unifyBreaks (c :: rest) = c :: unifyBreaks rest :=
  unifyBreaks.eq_4 c rest (fun _ h ↦ absurd h hc) hc

theorem unifyBreaks_return (h : ∀ tail, rest = '\n' :: tail → False) :
    unifyBreaks ('\r' :: rest) = '\n' :: unifyBreaks rest :=
  unifyBreaks.eq_3 rest h

theorem unifyBreaks_eq_self (h : '\r' ∉ source) : unifyBreaks source = source := by
  induction source using unifyBreaks.induct with
  | case1 => rfl
  | case2 | case3 => exact absurd List.mem_cons_self h
  | case4 c rest _ hc ih => rw [unifyBreaks_cons hc, ih fun hmem ↦ h (List.mem_cons_of_mem c hmem)]

theorem forall_head?_unifyBreaks {P : Char → Prop} (h : ∀ c ∈ source.head?, P c)
    (hfeed : P '\n') : ∀ c ∈ (unifyBreaks source).head?, P c := by
  fun_cases unifyBreaks source with
  | case1 => exact h
  | case2 | case3 =>
    rintro c ⟨⟩
    exact hfeed
  | case4 => exact h

end UnifiedBreaks

end Bugs.Text
