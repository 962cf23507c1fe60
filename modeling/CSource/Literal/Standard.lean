import CSource.Literal.Library
import CSource.Number.Text

/-!
# The standard library

A library of JSON values in which a number stands for itself. Whole numbers are written in decimal
and binary ones as their shortest decimals. It is the library in use where no other one is given.
-/

namespace CSource.Standard

/-- Numbers stand for themselves. -/
local instance numbers : JsonNumbers where
  Numeral := Number
  value := id
  text := Number.text
  same := Number.same

/-- The value of the finite number with some bits, or null. -/
def ofBits (bits : UInt64) : Json :=
  match Binary.ofBits? bits with
  | some number => .number (.binary number)
  | none => .null

/-- Values are equal by their structure, and numbers are converted as far as JSON has them. -/
instance library : JsonLibrary where
  toJsonNumbers := numbers
  equal := Json.same
  ofWhole width value := .number (.integer (width.toInt value))
  ofSingle value := ofBits (Binary.widen value.toBits)
  ofDouble value := ofBits value.toBits

end CSource.Standard
