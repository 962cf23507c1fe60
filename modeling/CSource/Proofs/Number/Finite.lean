import CSource.Number.Binary

/-!
# Finite numbers

Infinities and what is no number are told by the exponent field, whose bits are then all set. The
bits of a number of the 64-bit format are kept exactly where it is finite
(`Binary.isSome_ofBits?_toBits`), and so are those of one of the 32-bit format after widening
(`Binary.isSome_ofBits?_widen`): that makes the largest exponent field of the one format the largest
of the other, and does so with no other field. So the finite numbers of either format are those of
`Binary` (`Binary.exists_toFloat_eq`, `Binary.exists_bits_eq_widen`).
-/

namespace CSource.Binary

open Float.Model (Format)
open Float.Model.UnpackedFloat (unpack unpackExponent unpackMantissa)

/-- A number is finite where its exponent field is not the largest one. -/
theorem isFinite_unpack {format : Format} (bits : BitVec format.numBits) :
    (unpack format bits).isFinite =
      decide ((unpackExponent bits).toNat < Nat.pow 2 format.exponentBits - 1) := by
  have bound := (unpackExponent bits).isLt
  have largest : unpackExponent bits = -1#_ ↔
      (unpackExponent bits).toNat = Nat.pow 2 format.exponentBits - 1 := by
    rw [← BitVec.toNat_inj, BitVec.neg_one_eq_allOnes, BitVec.toNat_allOnes, Nat.pow_eq]
  rw [← Nat.pow_eq] at bound
  by_cases same : unpackExponent bits = -1#_
  · have shape : unpack format bits = _ := if_pos same
    rw [shape, largest.1 same, decide_eq_false (Nat.lt_irrefl _)]
    by_cases empty : unpackMantissa bits = 0#_
    · rw [if_pos empty]
      rfl
    · rw [if_neg empty]
      rfl
  · have shape : unpack format bits = _ := if_neg same
    have less : (unpackExponent bits).toNat < Nat.pow 2 format.exponentBits - 1 := by
      have distinct := mt largest.2 same
      omega
    rw [shape, decide_eq_true less]
    by_cases small : unpackExponent bits = 0#_
    · rw [if_pos small]
      by_cases empty : unpackMantissa bits = 0#_
      · rw [dif_pos empty]
        rfl
      · rw [dif_neg empty]
        rfl
    · rw [if_neg small]
      rfl

/-- The bits of a number of the 64-bit format are kept where it is finite. -/
theorem isSome_ofBits?_toBits (value : Float) :
    (ofBits? value.toBits).isSome = value.isFinite := by
  have finite : value.isFinite = (unpack .binary64 value.toBits.toBitVec).isFinite := rfl
  rw [finite, isFinite_unpack, toNat_unpackExponent, ofBits?]
  split <;> simp_all

/-- What widening writes below the sign bit, from the exponent field and the fraction field of 32
bits. -/
def wideFields (field fraction : Nat) : Nat :=
  if field = Nat.pow 2 8 - 1 then (Nat.pow 2 11 - 1) * Nat.pow 2 52 + fraction * Nat.pow 2 29
  else if field ≠ 0 then (field + 896) * Nat.pow 2 52 + fraction * Nat.pow 2 29
  else if fraction ≠ 0 then
    (fraction.log2 + 874) * Nat.pow 2 52 +
      (fraction * Nat.pow 2 (52 - fraction.log2) - Nat.pow 2 52)
  else 0

/-- A number times the power of two that its leading bit is short of one has that leading bit. -/
theorem normalized_bounds {fraction : Nat} (filled : fraction ≠ 0)
    (short : fraction < Nat.pow 2 23) :
    fraction.log2 < 23 ∧ Nat.pow 2 52 ≤ fraction * Nat.pow 2 (52 - fraction.log2) ∧
      fraction * Nat.pow 2 (52 - fraction.log2) < Nat.pow 2 53 := by
  have leading : fraction.log2 < 23 := (Nat.log2_lt filled).2 short
  have positive : 0 < Nat.pow 2 (52 - fraction.log2) := Nat.pow_pos Nat.two_pos
  have lower := Nat.mul_le_mul_right (Nat.pow 2 (52 - fraction.log2)) (Nat.log2_self_le filled)
  have upper := Nat.mul_lt_mul_of_pos_right (@Nat.lt_log2_self fraction) positive
  rw [Nat.pow_eq, ← Nat.pow_add] at lower upper
  have whole : fraction.log2 + (52 - fraction.log2) = 52 := by omega
  have above : fraction.log2 + 1 + (52 - fraction.log2) = 53 := by omega
  rw [whole] at lower
  rw [above] at upper
  exact ⟨leading, lower, upper⟩

/-- Widening writes an exponent field, and the largest one only for the largest one. -/
theorem wideFields_div {field fraction : Nat} (small : field < Nat.pow 2 8)
    (short : fraction < Nat.pow 2 23) :
    wideFields field fraction / Nat.pow 2 52 < Nat.pow 2 11 ∧
      (wideFields field fraction / Nat.pow 2 52 < Nat.pow 2 11 - 1 ↔ field < Nat.pow 2 8 - 1) := by
  have normalized := fun filled => normalized_bounds filled short
  unfold wideFields
  simp only [Nat.pow_eq, Nat.reducePow, Nat.reduceSub] at *
  split
  · omega
  · split
    · omega
    · split
      · rename_i filled
        have bounds := normalized filled
        omega
      · omega

/-- The fields of widened bits are written below the sign. -/
theorem toNat_widen (bits : UInt32) :
    (widen bits).toNat = (bits.toNat / Nat.pow 2 31 * Nat.pow 2 63 +
      wideFields (bits.toNat / Nat.pow 2 23 % Nat.pow 2 8) (bits.toNat % Nat.pow 2 23)) %
        Nat.pow 2 64 :=
  UInt64.toNat_ofNat'

/-- Widened bits have the largest exponent field where the bits have. -/
theorem exponentField_widen (bits : UInt32) :
    exponentField (widen bits) < Nat.pow 2 11 - 1 ↔
      bits.toNat / Nat.pow 2 23 % Nat.pow 2 8 < Nat.pow 2 8 - 1 := by
  have small : bits.toNat / Nat.pow 2 23 % Nat.pow 2 8 < Nat.pow 2 8 := Nat.mod_lt _ (by decide)
  have short : bits.toNat % Nat.pow 2 23 < Nat.pow 2 23 := Nat.mod_lt _ (by decide)
  obtain ⟨below, same⟩ := wideFields_div small short
  rw [← same, exponentField, toNat_widen]
  generalize wideFields _ _ = wide at below ⊢
  simp only [Nat.pow_eq, Nat.reducePow, Nat.reduceSub] at *
  omega

/-- The bits of a number of the 32-bit format are kept, after widening, where it is finite. -/
theorem isSome_ofBits?_widen (value : Float32) :
    (ofBits? (widen value.toBits)).isSome = value.isFinite := by
  have field : (@unpackExponent .binary32 value.toBits.toBitVec).toNat =
      value.toBits.toNat / Nat.pow 2 23 % Nat.pow 2 8 := by
    simp [unpackExponent, Nat.shiftRight_eq_div_pow]
  have finite : value.isFinite = (unpack .binary32 value.toBits.toBitVec).isFinite := rfl
  have widened := exponentField_widen value.toBits
  rw [finite, isFinite_unpack, field, ofBits?]
  split <;> simp_all

/-- Bits that stand for a finite number are the bits of that number. -/
theorem bits_of_ofBits? {bits : UInt64} {number : Binary} (found : ofBits? bits = some number) :
    number.bits = bits := by
  unfold ofBits? at found
  split at found
  · obtain rfl := Option.some.inj found
    rfl
  · contradiction

/-- The bits of a finite number stand for it. -/
theorem ofBits?_bits (number : Binary) : ofBits? number.bits = some number := dif_pos number.finite

/-- A finite number is the floating-point number with its bits. -/
theorem toFloat_eq_of_bits {number : Binary} {value : Float} (same : number.bits = value.toBits) :
    number.toFloat = value := by
  obtain ⟨_, _⟩ := number
  obtain ⟨_, _⟩ := value
  cases same
  rfl

/-- A floating-point number that is finite is one of the finite numbers. -/
theorem exists_toFloat_eq {value : Float} (finite : value.isFinite = true) :
    ∃ number : Binary, number.toFloat = value := by
  rw [← isSome_ofBits?_toBits, Option.isSome_iff_exists] at finite
  obtain ⟨number, found⟩ := finite
  exact ⟨number, toFloat_eq_of_bits (bits_of_ofBits? found)⟩

/-- A number of the 32-bit format that is finite is widened to the bits of a finite number. -/
theorem exists_bits_eq_widen {value : Float32} (finite : value.isFinite = true) :
    ∃ wide : Binary, wide.bits = widen value.toBits := by
  rw [← isSome_ofBits?_widen, Option.isSome_iff_exists] at finite
  obtain ⟨wide, found⟩ := finite
  exact ⟨wide, bits_of_ofBits? found⟩

end CSource.Binary
