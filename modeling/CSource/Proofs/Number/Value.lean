import CSource.Proofs.Number.Finite

/-!
# Values of finite numbers

A finite number is unpacked into a sign, a significand and an exponent, which determine it, and
which floating-point comparison looks at (`Binary.compare_unpack_eq_iff`). So two numbers that
compare equal are the same one, or the zeros of the two signs (`Binary.eq_or_areZeros_of_beq`).
-/

namespace CSource.Binary

open Float.Model (Format UnpackedFloat)
open Float.Model.UnpackedFloat (unpack unpackExponent unpackMantissa unpackSign Sign)

/-- The fraction field is short of the leading bit. -/
theorem fractionField_lt (bits : UInt64) : fractionField bits < Nat.pow 2 52 :=
  Nat.mod_lt _ (by decide)

/-- The significand and the exponent are read from the two fields, with a leading bit unless the
exponent field is zero. -/
theorem scaled_eq (number : Binary) :
    exponentField number.bits = 0 ∧ number.significand = fractionField number.bits ∧
        number.exponent = -1074 ∨
      0 < exponentField number.bits ∧
        number.significand = fractionField number.bits + Nat.pow 2 52 ∧
        number.exponent = exponentField number.bits - 1075 := by
  by_cases small : exponentField number.bits = 0
  · refine .inl ⟨small, if_pos small, ?_⟩
    rw [exponent, small]
    rfl
  · refine .inr ⟨Nat.pos_of_ne_zero small, if_neg small, ?_⟩
    rw [exponent]
    omega

/-- The sign bit and the two fields determine a number. -/
theorem eq_of_fields {left right : Binary} (signs : left.isNegative = right.isNegative)
    (exponents : exponentField left.bits = exponentField right.bits)
    (fractions : fractionField left.bits = fractionField right.bits) : left = right := by
  have first : left.bits.toNat < Nat.pow 2 64 := left.bits.toNat_lt
  have second : right.bits.toNat < Nat.pow 2 64 := right.bits.toNat_lt
  have bits : left.bits.toNat = right.bits.toNat := by
    unfold isNegative exponentField fractionField at *
    simp only [Nat.pow_eq, Nat.reducePow, decide_eq_decide] at *
    omega
  obtain ⟨_, _⟩ := left
  obtain ⟨_, _⟩ := right
  simpa [UInt64.toNat_inj] using bits

/-- Sign, exponent and significand determine a number. -/
theorem eq_of_scaled {left right : Binary} (signs : left.isNegative = right.isNegative)
    (exponents : left.exponent = right.exponent)
    (significands : left.significand = right.significand) : left = right := by
  have first := fractionField_lt left.bits
  have second := fractionField_lt right.bits
  have fields : exponentField left.bits = exponentField right.bits ∧
      fractionField left.bits = fractionField right.bits := by
    rcases left.scaled_eq with ⟨_, _, _⟩ | ⟨_, _, _⟩ <;>
      rcases right.scaled_eq with ⟨_, _, _⟩ | ⟨_, _, _⟩ <;> omega
  exact eq_of_fields signs fields.1 fields.2

/-- The sign of a number. Zeros have one as well. -/
def sign (number : Binary) : Sign := if number.isNegative then .negative else .positive

/-- Numbers of one sign have one sign bit. -/
theorem isNegative_eq_of_sign {left right : Binary} (same : left.sign = right.sign) :
    left.isNegative = right.isNegative := by
  unfold sign at same
  cases first : left.isNegative <;> cases second : right.isNegative <;>
    simp [first, second] at same ⊢

/-- The parts of a number: its sign, and its significand and exponent unless it is zero. -/
def unpacked (number : Binary) : UnpackedFloat :=
  if zero : number.significand = 0 then .zero number.sign
  else .finite number.sign number.significand number.exponent (Nat.pos_of_ne_zero zero)

/-- The sign is unpacked from the sign bit. -/
theorem ofBitVec_unpackSign (number : Binary) :
    Sign.ofBitVec (@unpackSign .binary64 number.bits.toBitVec) = number.sign := by
  have bound : number.bits.toNat < Nat.pow 2 64 := number.bits.toNat_lt
  have field : (@unpackSign .binary64 number.bits.toBitVec).toNat =
      number.bits.toNat / Nat.pow 2 63 % 2 := by
    have shape : (@unpackSign .binary64 number.bits.toBitVec).toNat =
        (number.bits.toBitVec.extractLsb 63 63).toNat := rfl
    rw [shape]
    simp [Nat.shiftRight_eq_div_pow]
  have clear : @unpackSign .binary64 number.bits.toBitVec = 0#1 ↔ number.isNegative = false := by
    rw [← BitVec.toNat_inj, field, isNegative, decide_eq_false_iff_not]
    simp only [Nat.pow_eq, Nat.reducePow, BitVec.toNat_ofNat, Nat.zero_mod] at *
    omega
  rw [sign]
  cases negative : number.isNegative with
  | false => exact if_pos (clear.2 negative)
  | true => exact if_neg fun same => by simp [clear.1 same] at negative

/-- A number is unpacked into its parts. -/
theorem unpack_eq (number : Binary) : unpack .binary64 number.bits.toBitVec = number.unpacked := by
  have field := toNat_unpackExponent number.bits
  have fraction : (@unpackMantissa .binary64 number.bits.toBitVec).toNat =
      fractionField number.bits := by
    simp [unpackMantissa, fractionField]
  have zeros : (@unpackExponent .binary64 number.bits.toBitVec = 0#_ ↔
      exponentField number.bits = 0) ∧ (@unpackMantissa .binary64 number.bits.toBitVec = 0#_ ↔
      fractionField number.bits = 0) := by
    rw [← BitVec.toNat_inj, ← BitVec.toNat_inj, field, fraction]
    exact ⟨.rfl, .rfl⟩
  have shape : unpack .binary64 number.bits.toBitVec = _ := if_neg number.unpackExponent_ne
  rw [shape, ofBitVec_unpackSign]
  rcases number.scaled_eq with ⟨small, significand, exponent⟩ | ⟨normal, significand, exponent⟩
  · rw [if_pos (zeros.1.2 small)]
    by_cases empty : fractionField number.bits = 0
    · rw [dif_pos (zeros.2.2 empty), unpacked, dif_pos (significand.trans empty)]
    · rw [dif_neg (mt zeros.2.1 empty), unpacked, dif_neg (significand ▸ empty)]
      congr 1
      · exact fraction.trans significand.symm
      · rw [field, small, exponent]
        rfl
  · have filled : number.significand ≠ 0 := by simp [significand]
    rw [if_neg (mt zeros.1.1 (Nat.ne_of_gt normal)), unpacked, dif_neg filled]
    congr 1
    · have joined := Nat.shiftLeft_add_eq_or_of_lt (fraction ▸ fractionField_lt number.bits) 1
      rw [significand, ← fraction, BitVec.toNat_append, Nat.add_comm]
      exact joined.symm
    · rw [field, exponent]
      rfl

/-- Numbers that are not zero compare equal where sign, exponent and significand are equal. -/
theorem compare_finite_eq_iff {left right : Sign} {first second : Nat} {low high : Int}
    (filled : 0 < first) (full : 0 < second) :
    (UnpackedFloat.finite left first low filled).compare (.finite right second high full) =
        some .eq ↔ left = right ∧ low = high ∧ first = second := by
  have same : (compare low high).then (compare first second) = .eq ↔
      low = high ∧ first = second := by
    rw [Ordering.then_eq_eq, Int.compare_eq_eq, Nat.compare_eq_eq]
  have apart (order : Ordering) (other : order ≠ .eq) (differ : left ≠ right) :
      some order = some .eq ↔ left = right ∧ low = high ∧ first = second :=
    ⟨fun equal => absurd (Option.some.inj equal) other, fun equal => absurd equal.1 differ⟩
  cases left with
  | positive =>
    cases right with
    | positive => exact (Option.some_inj.trans same).trans (and_iff_right rfl).symm
    | negative => exact apart .gt nofun nofun
  | negative =>
    cases right with
    | positive => exact apart .lt nofun nofun
    | negative =>
      exact (Option.some_inj.trans (Ordering.swap_eq_eq.trans same)).trans (and_iff_right rfl).symm

/-- A zero compares equal to no other number. -/
theorem compare_zero_ne (left right : Sign) {significand : Nat} {exponent : Int}
    (filled : 0 < significand) :
    (UnpackedFloat.zero left).compare (.finite right significand exponent filled) ≠ some .eq ∧
      (UnpackedFloat.finite right significand exponent filled).compare (.zero left) ≠
        some .eq := by
  cases right with
  | positive | negative => exact ⟨nofun, nofun⟩

/-- A number that is finite compares equal to none that is not. -/
theorem compare_ne_of_isFinite {left right : UnpackedFloat}
    (differ : left.isFinite ≠ right.isFinite) : left.compare right ≠ some .eq := by
  cases left with
  | notANumber => nofun
  | infinity sign =>
    cases right with
    | infinity other => exact absurd rfl differ
    | notANumber | zero _ | finite _ _ _ _ => cases sign <;> nofun
  | zero sign | finite sign _ _ _ =>
    cases right with
    | notANumber => cases sign <;> nofun
    | infinity other => cases other <;> cases sign <;> nofun
    | zero _ | finite _ _ _ _ => exact absurd rfl differ

/-- Two numbers compare equal where they are the same one, or both are zero. -/
theorem compare_unpack_eq_iff (left right : Binary) :
    (unpack .binary64 left.bits.toBitVec).compare (unpack .binary64 right.bits.toBitVec) =
      some .eq ↔ left = right ∨ left.significand = 0 ∧ right.significand = 0 := by
  rw [unpack_eq, unpack_eq, unpacked, unpacked]
  by_cases first : left.significand = 0 <;> by_cases second : right.significand = 0
  · rw [dif_pos first, dif_pos second]
    exact iff_of_true rfl (.inr ⟨first, second⟩)
  · have differ : left ≠ right := fun same => second (same ▸ first)
    rw [dif_pos first, dif_neg second]
    exact iff_of_false (compare_zero_ne _ _ _).1 (by simp [differ, second])
  · have differ : left ≠ right := fun same => first (same ▸ second)
    rw [dif_neg first, dif_pos second]
    exact iff_of_false (compare_zero_ne _ _ _).2 (by simp [differ, first])
  · rw [dif_neg first, dif_neg second, compare_finite_eq_iff]
    constructor
    · rintro ⟨signs, exponents, significands⟩
      exact .inl (eq_of_scaled (isNegative_eq_of_sign signs) exponents significands)
    · rintro (rfl | zeros)
      · exact ⟨rfl, rfl, rfl⟩
      · exact absurd zeros.1 first

/-- There are two zeros. -/
theorem eq_zero_or_negativeZero {number : Binary} (none : number.significand = 0) :
    number = zero ∨ number = negativeZero := by
  have fields : exponentField number.bits = 0 ∧ fractionField number.bits = 0 := by
    rcases number.scaled_eq with ⟨_, _, _⟩ | ⟨_, significand, _⟩
    · omega
    · simp [significand] at none
  cases sign : number.isNegative with
  | false => exact .inl (eq_of_fields sign fields.1 fields.2)
  | true => exact .inr (eq_of_fields sign fields.1 fields.2)

/-- Whether two numbers are the zeros of the two signs. -/
def AreZeros (left right : Binary) : Prop :=
  left = zero ∧ right = negativeZero ∨ left = negativeZero ∧ right = zero

/-- Two numbers that compare equal are the same one, or the zeros of the two signs. -/
theorem eq_or_areZeros_of_beq {left right : Binary}
    (equal : (left.toFloat == right.toFloat) = true) : left = right ∨ AreZeros left right := by
  have compared : (left.toFloat == right.toFloat) =
      ((unpack .binary64 left.bits.toBitVec).compare (unpack .binary64 right.bits.toBitVec) ==
        some .eq) := rfl
  rw [compared, beq_iff_eq, compare_unpack_eq_iff] at equal
  rcases equal with same | ⟨first, second⟩
  · exact .inl same
  · rcases eq_zero_or_negativeZero first with rfl | rfl <;>
      rcases eq_zero_or_negativeZero second with rfl | rfl
    · exact .inl rfl
    · exact .inr (.inl ⟨rfl, rfl⟩)
    · exact .inr (.inr ⟨rfl, rfl⟩)
    · exact .inl rfl

/-- A floating-point number that is finite compares equal to none that is not. -/
theorem beq_eq_false_of_isFinite {first second : Float}
    (differ : first.isFinite ≠ second.isFinite) : (first == second) = false := by
  have compared : (first == second) =
      (first.toModel.unpack.compare second.toModel.unpack == some .eq) := rfl
  rw [compared, beq_eq_false_iff_ne]
  exact compare_ne_of_isFinite differ

end CSource.Binary
