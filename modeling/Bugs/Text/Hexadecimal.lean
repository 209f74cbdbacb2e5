/-!
# Hexadecimal digits

Codes are written in hexadecimal with a fixed number of digits.
-/

namespace Bugs.Text

/-- The last digits of a number in base sixteen, as many as the width asks for. -/
def hexadecimal : Nat → Nat → List Char
  | 0, _ => []
  | width + 1, n => hexadecimal width (n / 16) ++ [Nat.digitChar (n % 16)]

theorem length_hexadecimal (width n : Nat) : (hexadecimal width n).length = width := by
  induction width generalizing n with
  | zero => rfl
  | succ width ih => simp only [hexadecimal, List.length_append, ih, List.length_singleton]

end Bugs.Text
