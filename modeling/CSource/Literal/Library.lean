import CSource.Literal.Json
import CSource.Number.Width

/-!
# Libraries of JSON values

Literals are made of the values of a JSON library, which is not part of this development: what it
does is a parameter (`JsonLibrary`). What it is relied on for is stated as laws, each theorem with
those that it needs: how numbers are converted (`JsonLibrary.Converts`), written
(`JsonNumbers.Prints`, `JsonNumbers.PrintsBinary`) and compared (`JsonLibrary.Compares`).
-/

namespace CSource

/-- A library of JSON values. -/
class JsonLibrary extends JsonNumbers where
  /-- Whether two values are equal. -/
  equal : Json → Json → Bool
  /-- A whole number of a width as a value. -/
  ofWhole : (width : Width) → width.Carrier → Json
  /-- A number of the 32-bit binary format as a value. -/
  ofSingle : Float32 → Json
  /-- A number of the 64-bit binary format as a value. -/
  ofDouble : Float → Json

namespace JsonNumbers

/-- Numbers are written as JSON writes them. -/
structure Prints [JsonNumbers] : Prop where
  /-- A whole number is written in decimal. -/
  whole : ∀ (numeral : Numeral) (number : Int),
    value numeral = .integer number → text numeral = toString number
  /-- Every number begins with a digit or a minus sign. -/
  starts : ∀ numeral : Numeral, StartsNumber (text numeral)

/-- Binary numbers are written as their shortest decimals, of which these are properties. -/
structure PrintsBinary [JsonNumbers] : Prop where
  /-- A number has one shortest decimal, whatever stands for the number. -/
  decimal : ∀ (left right : Numeral) (number : Binary),
    value left = .binary number → value right = .binary number → text left = text right
  /-- The zero without a sign is written without one. -/
  zero : ∀ numeral : Numeral, value numeral = .binary .zero → text numeral = "0.0"
  /-- The zero with a sign is written with it. -/
  negativeZero : ∀ numeral : Numeral,
    value numeral = .binary .negativeZero → text numeral = "-0.0"

end JsonNumbers

namespace JsonLibrary

open JsonNumbers (Numeral same value)

/-- Numbers become values, as far as JSON has them. -/
structure Converts [JsonLibrary] : Prop where
  /-- A whole number of any width is converted without loss. -/
  whole : ∀ (width : Width) (number : width.Carrier),
    ∃ numeral, ofWhole width number = .number numeral ∧ value numeral = .integer (width.toInt number)
  /-- A finite number of the 64-bit format is converted to that number. -/
  double : ∀ number : Binary,
    ∃ numeral, ofDouble number.toFloat = .number numeral ∧ value numeral = .binary number
  /-- A finite number of the 32-bit format is converted to the widened number. -/
  single : ∀ (number : Float32) (wide : Binary), wide.bits = Binary.widen number.toBits →
    ∃ numeral, ofSingle number = .number numeral ∧ value numeral = .binary wide
  /-- What is not finite in the 64-bit format is converted to null. -/
  doubleNull : ∀ number : Float, number.isFinite = false → ofDouble number = .null
  /-- What is not finite in the 32-bit format is converted to null. -/
  singleNull : ∀ number : Float32, number.isFinite = false → ofSingle number = .null

/-- Values are equal by their structure, and numbers by their value. -/
structure Compares [JsonLibrary] : Prop where
  /-- Two values are equal when they are built alike from equal numbers. -/
  structural : ∀ left right : Json, equal left right = left.same right
  /-- Two numbers are equal when they are of one kind and compare equal. -/
  numbers : ∀ left right : Numeral, same left right = (value left).same (value right)

end JsonLibrary
end CSource
