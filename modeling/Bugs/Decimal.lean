/-!
# Decimal numbers

A decimal number is a whole number of a power of ten. A zero has a sign too. The text of a
number shows its digits up to the last one that is not zero, in positional form or, where
the point is far away from them, with an exponent.
-/

namespace Bugs

/-- The number `digits * 10 ^ exponent`, or its opposite. -/
structure Decimal where
  negative : Bool
  digits : Nat
  exponent : Int
deriving Repr, DecidableEq

namespace Decimal

/-- The digits up to the last one that is not zero; a zero has none. -/
def significant (number : Decimal) : List Char :=
  ((Nat.toDigits 10 number.digits).reverse.dropWhile (· = '0')).reverse

/-- How many digits stand in front of the point; a negative number counts the zeros between
the point and the first digit. -/
def point (number : Decimal) : Int :=
  (Nat.toDigits 10 number.digits).length + number.exponent

/-- Digits around a point, with at least one digit on either side of it. -/
def positional (digits : List Char) (point : Int) : List Char :=
  if point ≤ 0 then '0' :: '.' :: List.replicate point.natAbs '0' ++ digits
  else
    let size := point.toNat
    let fraction := if digits.length ≤ size then ['0'] else digits.drop size
    digits.take size ++ List.replicate (size - digits.length) '0' ++ '.' :: fraction

/-- Digits with a point behind the first, unless it is the only one, and a signed exponent
of at least two digits. -/
def scientific (digits : List Char) (exponent : Int) : List Char :=
  let fraction := if digits.length ≤ 1 then [] else '.' :: digits.drop 1
  let size := Nat.toDigits 10 exponent.natAbs
  digits.take 1 ++ fraction ++ 'e' :: (if exponent < 0 then '-' else '+') ::
    List.replicate (2 - size.length) '0' ++ size

/-- The text of a number. It is positional while the first digit stands between the fourth
place behind the point and the sixteenth in front of it. -/
def text (number : Decimal) : String :=
  let digits := number.significant
  let size :=
    if digits = [] then ['0', '.', '0']
    else if -4 < number.point ∧ number.point ≤ 16 then positional digits number.point
    else scientific digits (number.point - 1)
  String.ofList (if number.negative then '-' :: size else size)

end Decimal

end Bugs
