/-!
# White space around words

Settings and trace levels are words that may be written with white space around them and
in any case. White space is the Unicode property of that name together with the four
information separators U+001C to U+001F; case is that of the ASCII letters, since every
word that is looked for consists of them.
-/

namespace Bugs.Text

/-- The white-space characters as closed ranges of code points, ascending and apart. -/
def spaceRanges : List (Nat × Nat) :=
  [(0x09, 0x0D), (0x1C, 0x20), (0x85, 0x85), (0xA0, 0xA0), (0x1680, 0x1680), (0x2000, 0x200A),
    (0x2028, 0x2029), (0x202F, 0x202F), (0x205F, 0x205F), (0x3000, 0x3000)]

/-- White space is what lies in one of the ranges. -/
def isSpace (c : Char) : Bool :=
  spaceRanges.any fun range ↦ range.1 ≤ c.toNat && c.toNat ≤ range.2

/-- Drops the white space at both ends. -/
def trim (text : String) : String :=
  String.ofList ((text.toList.dropWhile isSpace).reverse.dropWhile isSpace).reverse

/-- Turns the ASCII capitals into small letters. -/
def lower (text : String) : String :=
  String.ofList (text.toList.map Char.toLower)

end Bugs.Text
