import CSource.Number.Text
import CSource.Proofs.Number.Whole
import Mathlib.Data.List.TakeWhile

/-!
# First characters of numbers

The text of a number begins with a digit, or with a minus sign (`Number.startsNumber_text`). For a
shortest decimal this rests on its not being zero: no digit is left of a zero without its zeros.
-/

namespace CSource

/-- Whether the first character is a digit. -/
def StartsWithDigit (chars : List Char) : Prop := ∃ char ∈ chars.head?, char.isDigit = true

/-- Digits that are not empty start with a digit. -/
theorem StartsWithDigit.of_all {digits : List Char} (filled : digits ≠ [])
    (all : ∀ char ∈ digits, char.isDigit = true) : StartsWithDigit digits :=
  ⟨_, List.head?_eq_some_head filled, all _ (List.head_mem filled)⟩

/-- What stands after characters does not change how they start. -/
theorem StartsWithDigit.append {chars : List Char} (starts : StartsWithDigit chars)
    (others : List Char) : StartsWithDigit (chars ++ others) := by
  obtain ⟨char, head, digit⟩ := starts
  refine ⟨char, ?_, digit⟩
  rw [List.head?_append, head]
  rfl

namespace Decimal

/-- The digits of a decimal are digits. -/
theorem isDigit_of_mem_digits {decimal : Decimal} {char : Char} (mem : char ∈ decimal.digits) :
    char.isDigit = true :=
  Nat.isDigit_of_mem_toDigits (by decide) (by decide)
    (List.mem_reverse.1 (List.dropWhile_subset _ (List.mem_reverse.1 mem)))

/-- A decimal that is not zero has a digit besides the zeros at its end. -/
theorem digits_ne_nil {decimal : Decimal} (positive : 0 < decimal.coefficient) :
    decimal.digits ≠ [] := by
  intro empty
  have zeros := List.dropWhile_eq_nil_iff.1 (List.reverse_eq_nil_iff.1 empty)
  have head := List.head?_eq_some_head (Nat.toDigits_ne_nil (n := decimal.coefficient) (b := 10))
  have first := zeros _ (List.mem_reverse.2 (List.head_mem Nat.toDigits_ne_nil))
  rw [of_decide_eq_true first] at head
  exact head?_toDigits_ne_zero _ positive head

end Decimal

namespace DecimalStyle

/-- A decimal that is written positionally starts with a digit. -/
theorem startsWithDigit_positional {digits : List Char}
    (all : ∀ char ∈ digits, char.isDigit = true) (leading : Int) :
    StartsWithDigit (positional digits leading) := by
  have zeros : ∀ count, ∀ char ∈ List.replicate count '0', char.isDigit = true :=
    fun _ _ mem => List.eq_of_mem_replicate mem ▸ rfl
  have places := List.forall_mem_append.2 ⟨zeros (-leading).toNat, all⟩
  unfold positional
  refine StartsWithDigit.append (.of_all ?_ ?_) _
  · intro empty
    have length := congrArg List.length empty
    simp only [List.length_append, List.length_take, List.length_replicate,
      List.length_nil] at length
    omega
  · exact List.forall_mem_append.2 ⟨fun char mem => places char (List.mem_of_mem_take mem), zeros _⟩

/-- A decimal that is written with an exponent starts with a digit, if it has one. -/
theorem startsWithDigit_scientific (style : DecimalStyle) {digits : List Char} (filled : digits ≠ [])
    (all : ∀ char ∈ digits, char.isDigit = true) (leading : Int) :
    StartsWithDigit (style.scientific digits leading) := by
  have first : StartsWithDigit (digits.take 1) := by
    refine .of_all (by simpa using filled) fun char mem => all char (List.mem_of_mem_take mem)
  exact (((first.append _).append _).append _).append _

end DecimalStyle

/-- The preferred point of a grid is not zero. -/
theorem Neighbourhood.pointOn?_pos {around : Neighbourhood} {grid : Int} {point : Nat}
    (found : around.pointOn? grid = some point) : 0 < point := by
  unfold pointOn? at found
  by_cases zero : around.below grid = 0
  · rw [if_pos zero] at found
    contradiction
  · rw [if_neg zero] at found
    have candidate := List.mem_of_find?_eq_some found
    have neighbour : point = around.below grid ∨ point = around.below grid + 1 := by
      split at candidate <;> simpa [or_comm] using candidate
    omega

namespace Binary

/-- The shortest decimal of a number is not zero, or it is the decimal that stands for none. -/
theorem shortest_cases (number : Binary) :
    number.shortest = ⟨0, 0⟩ ∨ 0 < number.shortest.coefficient := by
  unfold shortest
  cases shape : grids.findSome? fun grid =>
      (number.neighbourhood.pointOn? grid).map fun point => Decimal.mk point grid with
  | none => exact .inl rfl
  | some decimal =>
    obtain ⟨grid, _, mapped⟩ := List.exists_of_findSome?_eq_some shape
    obtain ⟨point, found, rfl⟩ := Option.map_eq_some_iff.1 mapped
    exact .inr (Neighbourhood.pointOn?_pos found)

/-- The magnitude of a shortest decimal starts with a digit. -/
theorem startsWithDigit_write (number : Binary) :
    StartsWithDigit (style.write number.shortest) := by
  have digits : ∀ char ∈ number.shortest.digits, char.isDigit = true :=
    fun _ => Decimal.isDigit_of_mem_digits
  rcases number.shortest_cases with zero | positive
  · rw [zero]
    exact ⟨'0', rfl, rfl⟩
  · unfold DecimalStyle.write
    split
    · exact DecimalStyle.startsWithDigit_positional digits _
    · exact style.startsWithDigit_scientific (Decimal.digits_ne_nil positive) digits _

end Binary

/-- Characters that start with a digit start a number. -/
theorem StartsWithDigit.startsNumber {text : String} (starts : StartsWithDigit text.toList) :
    StartsNumber text := by
  obtain ⟨char, head, digit⟩ := starts
  exact ⟨char, head, .inl digit⟩

/-- The decimal of a whole number starts a number. -/
theorem IsDecimal.startsNumber {text : String} {value : Int} (decimal : IsDecimal text value) :
    StartsNumber text := by
  obtain ⟨digits, chars, filled, all, _⟩ := decimal.written
  by_cases negative : value < 0
  · rw [if_pos negative] at chars
    exact ⟨'-', congrArg List.head? chars, .inr rfl⟩
  · rw [if_neg negative] at chars
    exact (chars ▸ StartsWithDigit.of_all filled all : StartsWithDigit text.toList).startsNumber

/-- The text of a number starts a number. -/
theorem Number.startsNumber_text (number : Number) : StartsNumber number.text := by
  cases number with
  | integer value => exact (isDecimal_toString value).startsNumber
  | binary value =>
    have chars : value.text.toList = (if value.isNegative then ['-'] else []) ++
        (if value.isZero then ['0', '.', '0'] else Binary.style.write value.shortest) :=
      String.toList_ofList
    have magnitude : StartsWithDigit
        (if value.isZero then ['0', '.', '0'] else Binary.style.write value.shortest) := by
      split
      · exact ⟨'0', rfl, rfl⟩
      · exact value.startsWithDigit_write
    by_cases negative : value.isNegative = true
    · rw [if_pos negative] at chars
      exact ⟨'-', congrArg List.head? chars, .inr rfl⟩
    · rw [if_neg negative, List.nil_append] at chars
      exact (chars ▸ magnitude : StartsWithDigit value.text.toList).startsNumber

end CSource
