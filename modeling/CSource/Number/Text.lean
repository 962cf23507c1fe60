import CSource.Number.Basic
import CSource.Number.Shortest

/-!
# Texts of numbers

A whole number is written in decimal. A finite binary number is written with the digits of its
shortest decimal, positional for a range of magnitudes and with an exponent otherwise.
-/

namespace CSource

/-- When and how a decimal is written with an exponent. -/
structure DecimalStyle where
  /-- The power of ten of the leading digit from which on a number is written positionally. -/
  lowest : Int
  /-- The last power of ten of the leading digit at which it is. -/
  highest : Int
  /-- What stands before the exponent. -/
  mark : String
  /-- The sign of an exponent that is not negative. -/
  plus : String

namespace Decimal

/-- The digits of a decimal without the zeros at their end. -/
def digits (decimal : Decimal) : List Char :=
  ((Nat.toDigits 10 decimal.coefficient).reverse.dropWhile (· = '0')).reverse

/-- The power of ten of the leading digit. -/
def leading (decimal : Decimal) : Int :=
  decimal.exponent + (Nat.toDigits 10 decimal.coefficient).length - 1

end Decimal

namespace DecimalStyle

/-- Digits written positionally, the first of them at a power of ten. Zeros fill the places up to
the point, and a digit follows it. -/
def positional (digits : List Char) (leading : Int) : List Char :=
  let places := List.replicate (-leading).toNat '0' ++ digits
  let whole := leading.toNat + 1
  places.take whole ++ List.replicate (whole - places.length) '0' ++
    '.' :: (if places.drop whole = [] then ['0'] else places.drop whole)

/-- Digits with a point after the first of them, when more follow, and an exponent. -/
def scientific (style : DecimalStyle) (digits : List Char) (leading : Int) : List Char :=
  digits.take 1 ++ (if digits.drop 1 = [] then [] else '.' :: digits.drop 1) ++
    style.mark.toList ++ (if leading < 0 then ['-'] else style.plus.toList) ++
    Nat.toDigits 10 leading.natAbs

/-- The text of the magnitude of a decimal. -/
def write (style : DecimalStyle) (decimal : Decimal) : List Char :=
  if style.lowest ≤ decimal.leading ∧ decimal.leading ≤ style.highest
  then positional decimal.digits decimal.leading
  else style.scientific decimal.digits decimal.leading

end DecimalStyle

namespace Binary

/-- Numbers from a hundred-thousandth up to ten to the sixteenth are written positionally;
others have an exponent with a sign. -/
def style : DecimalStyle := ⟨-5, 15, "e", "+"⟩

/-- The text of a number. -/
def text (number : Binary) : String :=
  String.ofList
    ((if number.isNegative then ['-'] else []) ++
      if number.isZero then ['0', '.', '0'] else style.write number.shortest)

end Binary

/-- The text of a number. -/
def Number.text : Number → String
  | .integer value => toString value
  | .binary value => value.text

end CSource
