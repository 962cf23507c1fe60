import CSource.Proofs.Literal.Acceptance
import CSource.Proofs.Number.Value

/-!
# Equal literals

Literals are equal by value, and a literal is spelled by how its value is represented. With a JSON
library that compares numbers by their value and writes them as JSON has them, the two agree but for
one value with two representations: the zeros of the two signs are equal, and the sign of the one is
written (`Expr.value_eq_iff_of_beq`). Which literals of floating-point numbers are equal is told by
comparing the numbers.
-/

namespace CSource

open Binary (AreZeros)
open JsonLibrary (Compares Converts)
open JsonNumbers (Numeral Prints PrintsBinary)

/-- Equal numbers are the same one, or the zeros of the two signs. -/
theorem Number.eq_or_areZeros_of_same {left right : Number} (same : left.same right = true) :
    left = right ∨ ∃ zero other, left = .binary zero ∧ right = .binary other ∧
      AreZeros zero other := by
  revert same
  fun_cases Number.same left right with
  | case1 left right =>
    intro same
    rw [of_decide_eq_true same]
    exact .inl rfl
  | case2 left right =>
    intro same
    rcases Binary.eq_or_areZeros_of_beq same with rfl | zeros
    · exact .inl rfl
    · exact .inr ⟨left, right, rfl, rfl, zeros⟩
  | case3 => exact nofun

section

variable [JsonLibrary]

namespace Literal

/-- Whether two literals are the zeros of the two signs. -/
def AreOppositeZeros (left right : Literal) : Prop :=
  ∃ first second zero other, left = .json (.number first) ∧ right = .json (.number second) ∧
    JsonNumbers.value first = .binary zero ∧ JsonNumbers.value second = .binary other ∧
    AreZeros zero other

/-- Numbers are equal literals where their values are equal. -/
theorem beq_number (compares : Compares) (left right : Numeral) :
    (Literal.json (.number left) == .json (.number right)) =
      (JsonNumbers.value left).same (JsonNumbers.value right) := by
  have structural : (Literal.json (.number left) == .json (.number right)) =
      (Json.number left).same (.number right) := compares.structural _ _
  rw [structural, Json.same, compares.numbers]

/-- What stands for one number is written alike. -/
theorem text_eq_of_value_eq (prints : Prints) (decimals : PrintsBinary) {left right : Numeral}
    (same : JsonNumbers.value left = JsonNumbers.value right) :
    JsonNumbers.text left = JsonNumbers.text right := by
  cases shape : JsonNumbers.value right with
  | integer number =>
    exact (prints.whole left number (same.trans shape)).trans (prints.whole right number shape).symm
  | binary number => exact decimals.decimal left right number (same.trans shape) shape

/-- Equal numbers are written alike, unless they are opposite zeros. -/
theorem text_eq_of_same (prints : Prints) (decimals : PrintsBinary) {left right : Numeral}
    (same : (JsonNumbers.value left).same (JsonNumbers.value right) = true) :
    JsonNumbers.text left = JsonNumbers.text right ∨
      AreOppositeZeros (.json (.number left)) (.json (.number right)) := by
  rcases Number.eq_or_areZeros_of_same same with same | ⟨zero, other, first, second, zeros⟩
  · exact .inl (text_eq_of_value_eq prints decimals same)
  · exact .inr ⟨left, right, zero, other, rfl, rfl, first, second, zeros⟩

/-- Equal literals are spelled or refused alike, unless they are opposite zeros. -/
theorem spelling_eq_of_beq (compares : Compares) (prints : Prints) (decimals : PrintsBinary)
    {left right : Literal} (equal : (left == right) = true) :
    left.spelling = right.spelling ∨ left.AreOppositeZeros right := by
  cases left with
  | nonFinite =>
    cases right with
    | nonFinite => exact .inl rfl
    | json other => contradiction
  | json value =>
    cases right with
    | nonFinite => contradiction
    | json other =>
      have same : value.same other = true := (compares.structural value other).symm.trans equal
      clear equal
      revert same
      fun_cases Json.same value other with
      | case1 => exact fun _ => .inl rfl
      -- A truth value, an array and an object are refused whatever they hold.
      | case2 left right => exact fun _ => .inl rfl
      | case5 lefts rights => exact fun _ => .inl rfl
      | case6 lefts rights => exact fun _ => .inl rfl
      | case3 left right =>
        intro same
        rw [compares.numbers] at same
        exact (text_eq_of_same prints decimals same).imp_left (congrArg Except.ok)
      | case4 left right =>
        intro same
        rw [of_decide_eq_true same]
        exact .inl rfl
      | case7 => exact nofun

/-- The zeros of the two signs are equal, and the one without a sign is spelled without it. -/
theorem AreOppositeZeros.spelled (compares : Compares) (decimals : PrintsBinary)
    {left right : Literal} (opposite : left.AreOppositeZeros right) :
    (left == right) = true ∧
      (left.spelling = .ok "0.0" ∧ right.spelling = .ok "-0.0" ∨
        left.spelling = .ok "-0.0" ∧ right.spelling = .ok "0.0") := by
  obtain ⟨first, second, zero, other, rfl, rfl, stands, opposed, zeros⟩ := opposite
  rw [beq_number compares, stands, opposed]
  rcases zeros with ⟨rfl, rfl⟩ | ⟨rfl, rfl⟩
  · exact ⟨rfl, .inl ⟨congrArg Except.ok (decimals.zero first stands),
      congrArg Except.ok (decimals.negativeZero second opposed)⟩⟩
  · exact ⟨rfl, .inr ⟨congrArg Except.ok (decimals.negativeZero first stands),
      congrArg Except.ok (decimals.zero second opposed)⟩⟩

/-- The zeros of the two signs are spelled in two ways. -/
theorem AreOppositeZeros.spelling_ne (compares : Compares) (decimals : PrintsBinary)
    {left right : Literal} (opposite : left.AreOppositeZeros right) :
    left.spelling ≠ right.spelling := by
  rcases (opposite.spelled compares decimals).2 with ⟨first, second⟩ | ⟨first, second⟩ <;>
    rw [first, second] <;> exact fun same => absurd (Except.ok.inj same) (by decide)

/-- A finite floating-point number is given as what stands for it. -/
theorem toLiteral_toFloat (converts : Converts) {number : Binary}
    (finite : number.toFloat.isFinite = true) :
    ∃ numeral, toLiteral number.toFloat = Literal.json (.number numeral) ∧
      JsonNumbers.value numeral = .binary number := by
  obtain ⟨numeral, converted, stands⟩ := converts.double number
  refine ⟨numeral, ?_, stands⟩
  rw [← converted]
  exact if_pos finite

/-- A floating-point number that is not finite is given as one. -/
theorem toLiteral_of_not_finite {number : Float} (infinite : number.isFinite = false) :
    toLiteral number = nonFinite := by
  have test : toLiteral number = ofFinite number.isFinite (JsonLibrary.ofDouble number) := rfl
  rw [test, infinite]
  rfl

/-- Literals of floating-point numbers are equal where the numbers compare equal, or neither is
finite. -/
theorem beq_toLiteral (compares : Compares) (converts : Converts) (left right : Float) :
    ((toLiteral left : Literal) == toLiteral right) =
      (left == right || !left.isFinite && !right.isFinite) := by
  cases first : left.isFinite with
  | false =>
    rw [toLiteral_of_not_finite first]
    cases second : right.isFinite with
    | false =>
      rw [toLiteral_of_not_finite second]
      exact (Bool.or_true _).symm
    | true =>
      obtain ⟨number, rfl⟩ := Binary.exists_toFloat_eq second
      obtain ⟨numeral, literal, _⟩ := toLiteral_toFloat converts second
      rw [literal, Binary.beq_eq_false_of_isFinite (by simp [first, second])]
      rfl
  | true =>
    obtain ⟨number, rfl⟩ := Binary.exists_toFloat_eq first
    obtain ⟨numeral, literal, stands⟩ := toLiteral_toFloat converts first
    rw [literal]
    cases second : right.isFinite with
    | false =>
      rw [toLiteral_of_not_finite second,
        Binary.beq_eq_false_of_isFinite (by simp [first, second])]
      rfl
    | true =>
      obtain ⟨other, rfl⟩ := Binary.exists_toFloat_eq second
      obtain ⟨another, opposite, opposed⟩ := toLiteral_toFloat converts second
      rw [opposite, beq_number compares, stands, opposed]
      exact (Bool.or_false _).symm

/-- The floating-point zeros of the two signs are given as opposite zeros, and spelled with their
signs. -/
theorem areOppositeZeros_toLiteral (converts : Converts) (decimals : PrintsBinary) :
    AreOppositeZeros (toLiteral (0.0 : Float)) (toLiteral (-0.0 : Float)) ∧
      (toLiteral (0.0 : Float) : Literal).spelling = .ok "0.0" ∧
      (toLiteral (-0.0 : Float) : Literal).spelling = .ok "-0.0" := by
  have plain : (0.0 : Float) = Binary.zero.toFloat := rfl
  have signed : (-0.0 : Float) = Binary.negativeZero.toFloat := rfl
  obtain ⟨first, literal, stands⟩ := @toLiteral_toFloat _ converts .zero rfl
  obtain ⟨second, other, opposed⟩ := @toLiteral_toFloat _ converts .negativeZero rfl
  rw [signed, plain, literal, other]
  exact ⟨⟨first, second, .zero, .negativeZero, rfl, rfl, stands, opposed, .inl ⟨rfl, rfl⟩⟩,
    congrArg Except.ok (decimals.zero first stands),
    congrArg Except.ok (decimals.negativeZero second opposed)⟩

end Literal

/-- Values have the same code, or are refused for the same reason, as their literals are. -/
theorem Expr.value_eq_value_iff {α β : Type} [ToLiteral α] [ToLiteral β] {left : α} {right : β} :
    Expr.value left = Expr.value right ↔
      (toLiteral left).spelling = (toLiteral right).spelling := by
  unfold Expr.value
  cases (toLiteral left).spelling <;> cases (toLiteral right).spelling <;> simp [Except.map]

/-- With a library that compares and writes numbers by their value, two equal literals have the same
code, or are refused for the same reason, unless they are the zeros of the two signs, which are
equal and whose codes differ by the sign. Literals of floating-point numbers are equal where the
numbers compare equal, or neither is finite. -/
theorem Expr.value_eq_iff_of_beq (compares : Compares) (converts : Converts) (prints : Prints)
    (decimals : PrintsBinary) :
    (∀ left right : Literal, (left == right) = true →
      (Expr.value left = Expr.value right ↔ ¬ left.AreOppositeZeros right)) ∧
    (∀ left right : Literal, left.AreOppositeZeros right → (left == right) = true ∧
      (Expr.value left = .ok ⟨"0.0"⟩ ∧ Expr.value right = .ok ⟨"-0.0"⟩ ∨
        Expr.value left = .ok ⟨"-0.0"⟩ ∧ Expr.value right = .ok ⟨"0.0"⟩)) ∧
    ∀ left right : Float, ((toLiteral left : Literal) == toLiteral right) =
      (left == right || !left.isFinite && !right.isFinite) := by
  refine ⟨fun left right equal => Expr.value_eq_value_iff.trans ?_, fun left right opposite => ?_,
    Literal.beq_toLiteral compares converts⟩
  · refine ⟨fun same opposite => opposite.spelling_ne compares decimals same, fun other => ?_⟩
    exact (Literal.spelling_eq_of_beq compares prints decimals equal).resolve_right other
  · have code (literal : Literal) (text : String) :
        Expr.value literal = .ok ⟨text⟩ ↔ literal.spelling = .ok text := Expr.value_eq_ok_iff
    simpa only [code] using opposite.spelled compares decimals

end

/-- A number given in two formats is one literal with one code, and so is a number given in two
widths. -/
theorem Expr.value_eq_iff_of_beq_widened :
    let single : Literal := toLiteral (1.5 : Float32)
    let double : Literal := toLiteral (1.5 : Float)
    let narrow : Literal := toLiteral (-7 : Int8)
    let wide : Literal := toLiteral (some (-7) : Option Int64)
    (Compares ∧ Converts ∧ Prints ∧ PrintsBinary) ∧
      (single == double) = true ∧ Expr.value single = Expr.value double ∧
      (narrow == wide) = true ∧ Expr.value narrow = Expr.value wide := by
  intro single double narrow wide
  obtain ⟨agree, _, _⟩ := Expr.value_eq_iff_of_beq Standard.compares Standard.converts
    Standard.prints Standard.printsBinary
  have formats : single = double := by
    have bits : (⟨0x3ff8000000000000, by decide⟩ : Binary).bits =
        Binary.widen (1.5 : Float32).toBits := by decide +kernel
    have test : (1.5 : Float32).isFinite = true := by decide +kernel
    have first : single = .ofFinite (1.5 : Float32).isFinite
        (Standard.ofBits (Binary.widen (1.5 : Float32).toBits)) := rfl
    rw [first, test, Standard.ofBits_eq bits]
    rfl
  have widths : narrow = wide := rfl
  have floats : (single == double) = true := by
    rw [formats]
    exact (Literal.beq_number Standard.compares (.binary _) (.binary _)).trans rfl
  have wholes : (narrow == wide) = true := by
    rw [widths]
    exact (Literal.beq_number Standard.compares (.integer _) (.integer _)).trans rfl
  have apart {left right : Literal} (same : left = right) : ¬ left.AreOppositeZeros right :=
    fun opposite => opposite.spelling_ne Standard.compares Standard.printsBinary (same ▸ rfl)
  exact ⟨⟨Standard.compares, Standard.converts, Standard.prints, Standard.printsBinary⟩, floats,
    (agree _ _ floats).2 (apart formats), wholes, (agree _ _ wholes).2 (apart widths)⟩

/-- With every library that compares, converts and writes binary numbers by their value, of which
the standard one is an instance, the zeros of the two signs are equal and have two codes. -/
theorem Expr.value_ne_of_beq :
    (∀ [JsonLibrary], Compares → Converts → PrintsBinary →
      ((toLiteral (0.0 : Float) : Literal) == toLiteral (-0.0 : Float)) = true ∧
        Expr.value (0.0 : Float) = .ok ⟨"0.0"⟩ ∧ Expr.value (-0.0 : Float) = .ok ⟨"-0.0"⟩ ∧
        ¬ ∀ left right : Literal, (left == right) = true →
          Expr.value left = Expr.value right) ∧
      @Compares Standard.library ∧ @Converts Standard.library ∧
        @PrintsBinary Standard.library.toJsonNumbers := by
  refine ⟨fun compares converts decimals => ?_, Standard.compares, Standard.converts,
    Standard.printsBinary⟩
  obtain ⟨zeros, first, second⟩ := Literal.areOppositeZeros_toLiteral converts decimals
  refine ⟨(zeros.spelled compares decimals).1, Expr.value_eq_ok_iff.2 first,
    Expr.value_eq_ok_iff.2 second, fun all => ?_⟩
  have same := all _ _ (zeros.spelled compares decimals).1
  exact zeros.spelling_ne compares decimals (Expr.value_eq_value_iff.1 same)

end CSource
