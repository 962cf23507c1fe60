import CSource.Literal.Standard
import CSource.Proofs.Number.Finite
import CSource.Proofs.Number.Leading

/-!
# Laws of the standard library

The standard library keeps the laws of conversion, of writing and of comparison, so there is a
library that keeps them all.
-/

namespace CSource.Standard

/-- The bits of a finite number give its value. -/
theorem ofBits_eq {bits : UInt64} {number : Binary} (same : number.bits = bits) :
    ofBits bits = .number (.binary number) := by
  rw [ofBits, ← same, Binary.ofBits?_bits]

/-- Bits that stand for no finite number give null. -/
theorem ofBits_eq_null {bits : UInt64} (infinite : (Binary.ofBits? bits).isSome = false) :
    ofBits bits = .null := by
  have absent : Binary.ofBits? bits = none := by simpa using infinite
  rw [ofBits, absent]

/-- Numbers are converted as far as JSON has them. -/
theorem converts : JsonLibrary.Converts where
  whole width number := ⟨Number.integer (width.toInt number), rfl, rfl⟩
  double number := ⟨Number.binary number, ofBits_eq rfl, rfl⟩
  single _ wide same := ⟨Number.binary wide, ofBits_eq same, rfl⟩
  doubleNull number infinite :=
    ofBits_eq_null ((Binary.isSome_ofBits?_toBits number).trans infinite)
  singleNull number infinite :=
    ofBits_eq_null ((Binary.isSome_ofBits?_widen number).trans infinite)

/-- Numbers are written as JSON writes them. -/
theorem prints : JsonNumbers.Prints where
  whole _ _ same := congrArg Number.text same
  starts := Number.startsNumber_text

/-- Binary numbers are written as their shortest decimals. -/
theorem printsBinary : JsonNumbers.PrintsBinary where
  decimal _ _ _ first second := congrArg Number.text (first.trans second.symm)
  zero _ same := (congrArg Number.text same).trans (by decide)
  negativeZero _ same := (congrArg Number.text same).trans (by decide)

/-- Values are equal by their structure, and numbers by their value. -/
theorem compares : JsonLibrary.Compares where
  structural _ _ := rfl
  numbers _ _ := rfl

end CSource.Standard
