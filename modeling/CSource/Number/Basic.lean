import CSource.Number.Binary

/-!
# Numbers

A number is a whole number or a finite binary one, and a whole number never equals a binary one. Its
text begins with a digit or a minus sign.
-/

namespace CSource

/-- A number. -/
inductive Number where
  /-- A whole number. -/
  | integer (value : Int)
  /-- A finite binary number. -/
  | binary (value : Binary)
deriving DecidableEq

/-- Whether two numbers are of one kind and compare equal. -/
def Number.same : Number → Number → Bool
  | .integer left, .integer right => left = right
  | .binary left, .binary right => left.toFloat == right.toFloat
  | _, _ => false

/-- Whether the first character of a text is a digit or a minus sign. -/
def StartsNumber (text : String) : Prop :=
  ∃ char ∈ text.toList.head?, char.isDigit = true ∨ char = '-'

end CSource
