/-!
# Finite binary numbers

A finite number of the 64-bit binary format is known by its bits, and is a floating-point number
(`Binary.toFloat`). Its magnitude is a whole significand times a power of two. A number of the
32-bit format is a number of the 64-bit format with the same sign and magnitude.
-/

namespace CSource

namespace Binary

/-- The exponent field of 64 bits. -/
def exponentField (bits : UInt64) : Nat := bits.toNat / Nat.pow 2 52 % Nat.pow 2 11

/-- The fraction field of 64 bits. -/
def fractionField (bits : UInt64) : Nat := bits.toNat % Nat.pow 2 52

end Binary

/-- A finite number of the 64-bit binary format. -/
structure Binary where
  /-- The sign bit, the exponent field and the fraction field, from high to low. -/
  bits : UInt64
  /-- The largest exponent field is left to infinities and to what is no number. -/
  finite : Binary.exponentField bits < Nat.pow 2 11 - 1
deriving DecidableEq

namespace Binary

open Float.Model.UnpackedFloat (unpackExponent)

/-- The zero without a sign bit. -/
def zero : Binary := ⟨0, by decide⟩

/-- The zero with a sign bit. -/
def negativeZero : Binary := ⟨0x8000000000000000, by decide⟩

/-- The exponent field is the exponent of a floating-point number with these bits. -/
theorem toNat_unpackExponent (bits : UInt64) :
    (@unpackExponent .binary64 bits.toBitVec).toNat = exponentField bits := by
  simp [unpackExponent, exponentField, Nat.shiftRight_eq_div_pow]

/-- The exponent field of a finite number has a bit that is not set. -/
theorem unpackExponent_ne (number : Binary) :
    @unpackExponent .binary64 number.bits.toBitVec ≠ -1#_ := by
  intro largest
  have finite := number.finite
  rw [← toNat_unpackExponent, largest] at finite
  exact absurd finite (by decide)

/-- The floating-point number with these bits. -/
def toFloat (number : Binary) : Float :=
  .ofModel ⟨number.bits, ⟨fun largest => absurd largest number.unpackExponent_ne⟩⟩

/-- The number with these bits, if they stand for a finite one. -/
def ofBits? (bits : UInt64) : Option Binary :=
  if finite : exponentField bits < Nat.pow 2 11 - 1 then some ⟨bits, finite⟩ else none

/-- Whether the sign bit is set. -/
def isNegative (number : Binary) : Bool := Nat.pow 2 63 ≤ number.bits.toNat

/-- The whole number that the magnitude is a multiple of a power of two of. -/
def significand (number : Binary) : Nat :=
  if exponentField number.bits = 0 then fractionField number.bits
  else fractionField number.bits + Nat.pow 2 52

/-- The power of two that scales the significand. -/
def exponent (number : Binary) : Int := max 1 (exponentField number.bits) - 1075

/-- Whether the number is zero, of either sign. -/
def isZero (number : Binary) : Bool := number.significand = 0

/-- The 64 bits of the sign and magnitude of 32 bits. Small magnitudes get a leading bit. -/
def widen (bits : UInt32) : UInt64 :=
  let sign := bits.toNat / Nat.pow 2 31
  let field := bits.toNat / Nat.pow 2 23 % Nat.pow 2 8
  let fraction := bits.toNat % Nat.pow 2 23
  let wide :=
    if field = Nat.pow 2 8 - 1 then (Nat.pow 2 11 - 1) * Nat.pow 2 52 + fraction * Nat.pow 2 29
    else if field ≠ 0 then (field + 896) * Nat.pow 2 52 + fraction * Nat.pow 2 29
    else if fraction ≠ 0 then
      (fraction.log2 + 874) * Nat.pow 2 52 +
        (fraction * Nat.pow 2 (52 - fraction.log2) - Nat.pow 2 52)
    else 0
  UInt64.ofNat (sign * Nat.pow 2 63 + wide)

end Binary
end CSource
