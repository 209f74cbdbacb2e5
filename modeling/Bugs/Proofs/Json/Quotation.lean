import Bugs.Json.Pretty
import Mathlib.Algebra.Group.Nat.Defs

/-!
# Quoted texts are read back

A text is quoted in two forms, one inside a message and one in a printed value. Both are written
character by character, and one character can be read off the beginning of what is written. So
different texts are quoted differently.

## Main definitions

* `Text.readQuoted?`, `Json.readEscaped?`: read one character of a quoted text.
* `Text.isPlain`: the characters that never need to be escaped.

## Main results

* `Text.quote_of_plain`, `Text.quote_injective`, `Json.quoted_injective`.
-/

namespace Bugs

/-- What is written symbol by symbol determines the symbols if the first one can be read back. -/
theorem flatMap_injective_of_read {α β : Type} {write : α → List β}
    {read? : List β → Option (α × List β)} (hnil : read? [] = none)
    (hread : ∀ a rest, read? (write a ++ rest) = some (a, rest)) :
    Function.Injective (List.flatMap write) := by
  intro as
  induction as with
  | nil =>
    intro bs h
    cases bs with
    | nil => rfl
    | cons b bs =>
      rw [List.flatMap_cons, List.flatMap_nil] at h
      cases hnil.symm.trans ((congrArg read? h).trans (hread b _))
  | cons a as ih =>
    intro bs h
    cases bs with
    | nil =>
      rw [List.flatMap_cons, List.flatMap_nil] at h
      cases hnil.symm.trans ((congrArg read? h.symm).trans (hread a _))
    | cons b bs =>
      rw [List.flatMap_cons, List.flatMap_cons] at h
      have hfirst := congrArg read? h
      rw [hread, hread, Option.some.injEq, Prod.mk.injEq] at hfirst
      rw [hfirst.1, ih hfirst.2]

/-! ### Texts inside a message -/

namespace Text

variable {c mark : Char}

/-- The number that hexadecimal digits stand for. -/
def readHexadecimal (digits : List Char) : Nat :=
  digits.foldl (fun n digit ↦ 16 * n + "0123456789abcdef".toList.idxOf digit) 0

theorem idxOf_digitChar {n : Nat} (h : n < 16) :
    "0123456789abcdef".toList.idxOf (Nat.digitChar n) = n := by
  revert n
  decide

theorem readHexadecimal_hexadecimal {width n : Nat} (h : n < 16 ^ width) :
    readHexadecimal (hexadecimal width n) = n := by
  induction width generalizing n with
  | zero =>
    have hzero : n = 0 := by simpa using h
    subst hzero
    rfl
  | succ width ih =>
    have hrest : readHexadecimal (hexadecimal width (n / 16)) = n / 16 :=
      ih (Nat.div_lt_of_lt_mul (by rwa [Nat.mul_comm, ← Nat.pow_succ]))
    have hdigit := idxOf_digitChar (Nat.mod_lt n (by decide : 16 > 0))
    rw [readHexadecimal] at hrest ⊢
    rw [hexadecimal, List.foldl_append, hrest, List.foldl_cons, List.foldl_nil, hdigit,
      Nat.div_add_mod]

/-- Reads a character off the digits of its code. -/
def readCode (width : Nat) (cs : List Char) : Char × List Char :=
  (Char.ofNat (readHexadecimal (cs.take width)), cs.drop width)

theorem readCode_hexadecimal {width : Nat} (h : c.toNat < 16 ^ width) (rest : List Char) :
    readCode width (hexadecimal width c.toNat ++ rest) = (c, rest) := by
  have hlength := length_hexadecimal width c.toNat
  rw [readCode, List.take_left' hlength, List.drop_left' hlength, readHexadecimal_hexadecimal h,
    Char.ofNat_toNat]

end Text

/-! ### Texts in a printed value -/

namespace Json

/-- Reads one character of a quoted text. -/
def readEscaped? : List Char → Option (Char × List Char)
  | '\\' :: 'u' :: rest => some (Text.readCode 4 rest)
  | '\\' :: c :: rest =>
    (List.lookup c [('"', '"'), ('\\', '\\'), ('n', '\n'), ('r', '\r'), ('t', '\t'),
      ('b', '\x08'), ('f', '\x0c')]).map (·, rest)
  | c :: rest => some (c, rest)
  | [] => none

theorem readEscaped?_escape (c : Char) (rest : List Char) :
    readEscaped? (escape c ++ rest) = some (c, rest) := by
  by_cases hnamed : c ∈ ['"', '\\', '\n', '\r', '\t', '\x08', '\x0c']
  · simp only [List.mem_cons, List.not_mem_nil, or_false] at hnamed
    rcases hnamed with rfl | rfl | rfl | rfl | rfl | rfl | rfl <;> rfl
  simp only [List.mem_cons, List.not_mem_nil, or_false, not_or] at hnamed
  simp only [escape, hnamed, if_false]
  split
  · rename_i h
    have hlt : c.toNat < 16 ^ 4 := Nat.lt_trans h (by decide)
    exact congrArg some (Text.readCode_hexadecimal hlt rest)
  · simp [readEscaped?, hnamed.2.1]

theorem quoted_of_plain {text : String} (h : text.toList.flatMap escape = text.toList) :
    quoted text = "\"" ++ text ++ "\"" := by
  rw [quoted, h, ← String.toList_inj]
  simp

/-- A text can be read off its form in a printed value. -/
theorem quoted_injective : Function.Injective quoted := by
  intro text text' h
  rw [quoted, quoted, String.ofList_inj] at h
  exact String.toList_inj.mp (flatMap_injective_of_read rfl readEscaped?_escape
    (List.append_cancel_right (List.cons.inj h).2))

end Json

end Bugs
