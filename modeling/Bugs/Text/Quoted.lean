import Bugs.Text.Hexadecimal
import Bugs.Text.Printable

/-!
# Quoted text

A text inside a message stands between quotation marks. The mark is the apostrophe, or the
double mark where the text holds an apostrophe and no double mark. Only printable
characters stand for themselves; the mark and the backslash take a backslash in front, and
the others are given by a letter or by their code in two, four or eight digits.
-/

namespace Bugs.Text

/-- The mark around a text. -/
def quotationMark (cs : List Char) : Char :=
  if '\'' ∈ cs ∧ '"' ∉ cs then '"' else '\''

/-- The code of a character in the fewest of two, four and eight digits. -/
def codeEscape (c : Char) : List Char :=
  if c.toNat < 0x100 then '\\' :: 'x' :: hexadecimal 2 c.toNat
  else if c.toNat < 0x10000 then '\\' :: 'u' :: hexadecimal 4 c.toNat
  else '\\' :: 'U' :: hexadecimal 8 c.toNat

/-- A character between two marks. -/
def quotedChar (mark c : Char) : List Char :=
  if c = mark ∨ c = '\\' then ['\\', c]
  else if c = '\n' then ['\\', 'n']
  else if c = '\r' then ['\\', 'r']
  else if c = '\t' then ['\\', 't']
  else if isPrintable c then [c]
  else codeEscape c

/-- A text between quotation marks. -/
def quote (text : String) : String :=
  let mark := quotationMark text.toList
  String.ofList (mark :: text.toList.flatMap (quotedChar mark) ++ [mark])

end Bugs.Text
