import CSource.Number.Text

/-!
# Decimals of whole numbers

A whole number is written in decimal in one way only: a minus sign before negative numbers and no
others, and digits that begin with a zero only when it is the one digit. The number is read back
from its decimal (`isDecimal_toString`), so two numbers have two decimals (`IsDecimal.unique`).
-/

namespace CSource

/-- A natural number is written as its digits. -/
theorem toList_toString (value : Nat) : (toString value).toList = Nat.toDigits 10 value :=
  Nat.toList_repr

/-- A natural number has a digit. -/
theorem toList_toString_ne_nil (value : Nat) : (toString value).toList ≠ [] := by
  rw [toList_toString]
  exact Nat.toDigits_ne_nil

/-- Only digits are written for a natural number. -/
theorem isDigit_of_mem_toString {value : Nat} {char : Char} (mem : char ∈ (toString value).toList) :
    char.isDigit = true := by
  rw [toList_toString] at mem
  exact Nat.isDigit_of_mem_toDigits (by decide) (by decide) mem

/-- The digits of a natural number stand for it. -/
theorem ofDigitChars_toString (value : Nat) :
    Nat.ofDigitChars 10 (toString value).toList 0 = value := by
  rw [toList_toString]
  exact Nat.ofDigitChars_ten_toDigits

/-- The digits of a positive number do not begin with a zero. -/
theorem head?_toDigits_ne_zero (value : Nat) (positive : 0 < value) :
    (Nat.toDigits 10 value).head? ≠ some '0' := by
  induction value using Nat.strongRecOn with
  | ind value ih =>
    by_cases small : value < 10
    · rw [Nat.toDigits_of_lt_base small, List.head?_singleton, Ne, Option.some_inj,
        Nat.digitChar_eq_zero]
      omega
    · -- The first digit is that of a tenth of the number, which is less and still positive.
      have first := ih (value / 10) (by omega) (by omega)
      have some := List.head?_eq_some_head (Nat.toDigits_ne_nil (n := value / 10) (b := 10))
      rw [Nat.toDigits_of_base_le (by decide) (Nat.le_of_not_lt small), List.head?_append, some]
      rwa [some] at first

/-- Only zero is written with a zero first. -/
theorem toList_toString_of_zero {value : Nat} (zero : (toString value).toList.head? = some '0') :
    (toString value).toList = ['0'] := by
  by_cases positive : 0 < value
  · rw [toList_toString] at zero
    exact absurd zero (head?_toDigits_ne_zero value positive)
  · obtain rfl : value = 0 := by omega
    rfl

/-- The whole number that digits stand for, after a minus sign or not. -/
def readWhole : List Char → Int
  | '-' :: digits => -(Nat.ofDigitChars 10 digits 0 : Int)
  | digits => Nat.ofDigitChars 10 digits 0

/-- Whether a text is the decimal of a whole number. -/
structure IsDecimal (text : String) (value : Int) : Prop where
  /-- A minus sign stands before a negative number only, and no digit could be left out. -/
  written : ∃ digits, text.toList = (if value < 0 then '-' :: digits else digits) ∧ digits ≠ [] ∧
    (∀ char ∈ digits, char.isDigit = true) ∧ (digits.head? = some '0' → digits = ['0'])
  /-- The number is read back. -/
  read : readWhole text.toList = value

/-- A text is the decimal of one number. -/
theorem IsDecimal.unique {text : String} {left right : Int} (first : IsDecimal text left)
    (second : IsDecimal text right) : left = right := first.read.symm.trans second.read

/-- Digits without a sign are read as the number that they stand for. -/
theorem readWhole_of_isDigit {digits : List Char} (all : ∀ char ∈ digits, char.isDigit = true) :
    readWhole digits = Nat.ofDigitChars 10 digits 0 := by
  refine readWhole.eq_2 digits fun rest signed => ?_
  subst signed
  exact absurd (all '-' List.mem_cons_self) (by decide)

/-- A whole number is written as its decimal. -/
theorem isDecimal_toString (value : Int) : IsDecimal (toString value) value := by
  cases value with
  | ofNat value =>
    have chars : (toString (Int.ofNat value)).toList = (toString value).toList := rfl
    have unsigned : ¬ Int.ofNat value < 0 := Int.not_lt.2 (Int.natCast_nonneg value)
    refine ⟨⟨_, chars.trans (if_neg unsigned).symm, toList_toString_ne_nil value,
      fun _ => isDigit_of_mem_toString, toList_toString_of_zero⟩, ?_⟩
    rw [chars, readWhole_of_isDigit fun _ => isDigit_of_mem_toString, ofDigitChars_toString]
    rfl
  | negSucc value =>
    have chars : (toString (Int.negSucc value)).toList = '-' :: (toString (value + 1)).toList :=
      String.toList_append
    have signed : Int.negSucc value < 0 := Int.negSucc_lt_zero value
    refine ⟨⟨_, chars.trans (if_pos signed).symm, toList_toString_ne_nil (value + 1),
      fun _ => isDigit_of_mem_toString, toList_toString_of_zero⟩, ?_⟩
    rw [chars, readWhole, ofDigitChars_toString]
    rfl

end CSource
