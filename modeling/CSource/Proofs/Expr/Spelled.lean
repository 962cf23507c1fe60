import CSource.Expr.Operator
import CSource.Proofs.Expr.Lexeme

/-!
# Texts that are cut apart where they were put together

The text of an expression is put together from pieces. Each piece is cut into its own tokens where
the character after it does not go on with its last one, and the next piece says what that character
can be (`Lexeme.Spelled`). Pieces that agree on it can be put after each other
(`Lexeme.Spelled.append`).
-/

namespace CSource

namespace Lexeme

/-- Whether a text begins with a character of one kind, and is cut into some tokens wherever a
character of another kind, or none, stands after it. -/
structure Spelled (first next : Char → Prop) (text : String) (tokens : List Lexeme) : Prop where
  /-- The text is not empty, and its first character is of the first kind. -/
  starts : ∃ char ∈ text.toList.head?, first char
  /-- The text is cut on its own. -/
  cuts : ∀ rest : List Char, (∀ char ∈ rest.head?, next char) →
    scan (text.toList ++ rest) = tokens ++ scan rest

/-- Whether a text is a mark that opens no comment. -/
abbrev IsMark (text : String) : Prop := text ∈ marks ∧ text ≠ "//" ∧ text ≠ "/*"

/-- Whether no more of a mark can stand where a character does. -/
abbrev Ends (text : String) (char : Char) : Prop := isLonger text char = false

/-- Whether a character stands first in a name. -/
def IsNameStart (char : Char) : Prop := isWordChar char = true ∧ char.isDigit = false

/-- Whether a character ends a name. -/
def IsNameEnd (char : Char) : Prop := isWordChar char = false ∧ isQuote char = false

/-- Whether a character ends a whole number. -/
def IsNumberEnd (char : Char) : Prop :=
  isWordChar char = false ∧ char ≠ '.' ∧ char ≠ '+' ∧ char ≠ '-'

namespace Spelled

variable {first next before after : Char → Prop} {text left right : String}
  {tokens leading trailing : List Lexeme}

/-- A text whose conditions are weaker before it and stronger after it. -/
theorem mono (spelled : Spelled first next text tokens) (weaker : ∀ char, first char → before char)
    (stronger : ∀ char, after char → next char) : Spelled before after text tokens where
  starts :=
    have ⟨char, head, starts⟩ := spelled.starts
    ⟨char, head, weaker char starts⟩
  cuts rest ends := spelled.cuts rest fun char head => stronger char (ends char head)

/-- Two texts, if the second begins with what ends the first. -/
theorem append (one : Spelled first next left leading) (other : Spelled before after right trailing)
    (fits : ∀ char, before char → next char) :
    Spelled first after (left ++ right) (leading ++ trailing) where
  starts := by
    obtain ⟨char, head, starts⟩ := one.starts
    refine ⟨char, ?_, starts⟩
    rw [String.toList_append, List.head?_append, head]
    rfl
  cuts rest ends := by
    obtain ⟨char, head, starts⟩ := other.starts
    have boundary : ∀ char ∈ (right.toList ++ rest).head?, next char := by
      rw [List.head?_append, head]
      rintro _ ⟨rfl⟩
      exact fits char starts
    rw [String.toList_append, List.append_assoc, one.cuts _ boundary, other.cuts rest ends,
      List.append_assoc]

/-- The tokens in another form. -/
theorem of_eq (spelled : Spelled first next text leading) (same : leading = tokens) :
    Spelled first next text tokens := same ▸ spelled

/-- What a text is cut into where nothing stands after it. -/
theorem ofText (spelled : Spelled first next text tokens) : Lexeme.ofText text = tokens := by
  simpa [Lexeme.ofText] using spelled.cuts [] (by simp)

end Spelled

/-- A character that belongs to no mark ends every mark, unless it goes on with a number. -/
theorem ends_of_not_isMarkChar (text : String) {char : Char} (plain : isMarkChar char = false)
    (undigit : char.isDigit = false) : Ends text char := by
  simp only [Ends, isLonger, undigit, Bool.and_false, Bool.or_false, List.any_eq_false]
  intro longer listed starts
  obtain ⟨rest, shape⟩ := List.isPrefixOf_iff_prefix.1 starts
  have all := List.all_eq_true.1 (all_isMarkChar longer listed).2 char (by simp [← shape])
  rw [plain] at all
  contradiction

/-- An opening parenthesis ends every mark. -/
theorem ends_paren {text : String} (listed : text ∈ marks) : Ends text '(' := by
  have only : ∀ longer ∈ marks, '(' ∈ longer.toList → longer = "(" := by decide
  have nonempty := (all_isMarkChar text listed).1
  have undigit : '('.isDigit = false := rfl
  simp only [Ends, isLonger, undigit, Bool.and_false, Bool.or_false, List.any_eq_false]
  intro longer known starts
  obtain ⟨rest, shape⟩ := List.isPrefixOf_iff_prefix.1 starts
  obtain rfl := only longer known (by simp [← shape])
  have length := congrArg List.length shape
  have positive := List.length_pos_iff.2 nonempty
  have single : "(".toList.length = 1 := rfl
  simp only [List.length_append, List.length_cons, List.length_nil, single] at length
  omega

/-- A space ends every mark. -/
theorem ends_space (text : String) : Ends text ' ' :=
  ends_of_not_isMarkChar text (by decide) (by decide)

/-- A name ends every mark. -/
theorem IsNameStart.ends {char : Char} (start : IsNameStart char) (text : String) :
    Ends text char :=
  ends_of_not_isMarkChar text (by simp [isMarkChar, start.1]) start.2

/-- Marks end names. -/
theorem IsMark.nameEnd {text : String} (mark : IsMark text) {char : Char}
    (first : char ∈ text.toList.head?) : IsNameEnd char := by
  have plain := List.all_eq_true.1 (all_isMarkChar text mark.1).2 char
    (List.mem_of_mem_head? first)
  simp only [isMarkChar, Bool.and_eq_true, Bool.not_eq_true'] at plain
  exact ⟨plain.1.2, plain.2⟩

/-- An identifier. -/
theorem spelled_word (text : String) (identifier : isIdentifier text = true) :
    Spelled IsNameStart IsNameEnd text [.word text] where
  starts := by
    unfold isIdentifier at identifier
    cases shape : text.toList with
    | nil => simp [shape] at identifier
    | cons first others =>
      simp only [shape, Bool.and_eq_true, Bool.not_eq_true'] at identifier
      exact ⟨first, rfl, identifier.1⟩
  cuts _ ends := scan_word identifier ends

/-- A whole number. -/
theorem spelled_number (value : Nat) :
    Spelled (fun _ => True) IsNumberEnd (toString value) [.number (toString value)] where
  starts := by
    cases shape : (toString value).toList with
    | nil => exact absurd shape (toList_toString_ne_nil value)
    | cons first others => exact ⟨first, rfl, trivial⟩
  cuts _ ends := scan_number value ends

/-- A mark. -/
theorem spelled_mark (text : String) (mark : IsMark text) :
    Spelled (· ∈ text.toList.head?) (Ends text) text [.mark text] where
  starts := by
    have nonempty := (all_isMarkChar text mark.1).1
    cases shape : text.toList with
    | nil => exact absurd shape nonempty
    | cons first others => exact ⟨first, rfl, rfl⟩
  cuts _ ends := scan_mark mark.1 mark.2 ends

/-- A space. -/
theorem spelled_space : Spelled (· = ' ') (fun _ => True) " " [] where
  starts := ⟨' ', rfl, rfl⟩
  cuts rest _ := scan_space rest

/-- A mark between spaces. -/
theorem spelled_spaced (text : String) (mark : IsMark text) :
    Spelled (· = ' ') (fun _ => True) (" " ++ text ++ " ") [.mark text] :=
  (spelled_space.append (spelled_mark text mark) fun _ _ => trivial).append spelled_space
    fun _ space => space ▸ ends_space text

/-- Two texts with a mark between spaces. -/
theorem Spelled.between {first next before after : Char → Prop} {left right : String}
    {leading trailing : List Lexeme} (one : Spelled first next left leading)
    (other : Spelled before after right trailing) {text : String} (mark : IsMark text)
    (ends : next ' ') : Spelled first after (left ++ " " ++ text ++ " " ++ right)
      (leading ++ .mark text :: trailing) := by
  have opened := one.append spelled_space fun _ space => space ▸ ends
  have marked := opened.append (spelled_mark text mark) fun _ _ => trivial
  have spaced := marked.append spelled_space fun _ space => space ▸ ends_space text
  exact (spaced.append other fun _ _ => trivial).of_eq (by simp)

/-- Brackets and commas end where they are, whatever follows. -/
theorem ends_bracket {text : String} (listed : text ∈ ["(", ")", "[", "]", ","]) (char : Char) :
    Ends text char := by
  simp only [List.mem_cons, List.not_mem_nil, or_false] at listed
  rcases listed with rfl | rfl | rfl | rfl | rfl <;> rfl

/-- A bracket or a comma. -/
theorem spelled_bracket (text : String) (listed : text ∈ ["(", ")", "[", "]", ","]) :
    Spelled (· ∈ text.toList.head?) (fun _ => True) text [.mark text] := by
  have mark : IsMark text := by
    revert text
    decide
  exact (spelled_mark text mark).mono (fun _ => id) fun char _ => ends_bracket listed char

end Lexeme

/-- Operators between two operands are marks. -/
theorem BinaryOperator.isMark (operator : BinaryOperator) : Lexeme.IsMark operator.symbol := by
  cases operator <;> decide

/-- Operators before their operand are marks. -/
theorem UnaryOperator.isMark (operator : UnaryOperator) : Lexeme.IsMark operator.symbol := by
  cases operator <;> decide

/-- Operators after their operand are marks. -/
theorem PostfixOperator.isMark (operator : PostfixOperator) : Lexeme.IsMark operator.symbol := by
  cases operator <;> decide

/-- Assignments are marks. -/
theorem AssignOperator.isMark (operator : AssignOperator) : Lexeme.IsMark operator.symbol := by
  cases operator <;> decide

end CSource
