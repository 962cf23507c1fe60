import CSource.CType.Spelling
import CSource.Expr.Basic
import CSource.Proofs.Expr.Spelled
import CSource.Proofs.Literal.Standard

/-!
# Operators before their operand

An operator before an operand is written right at it. No expression begins with what goes on with
such an operator, apart from the first characters of `-` and `&` themselves: a minus before a minus
is read as a decrement, and an ampersand before an ampersand as the logical operator
(`Expr.IsBuilt.ofText_unary_iff`). Parentheses keep them apart.
-/

namespace CSource

open Lexeme (Ends)

/-- Expressions that are put together from names and literals. -/
inductive Expr.IsBuilt [JsonLibrary] : Expr → Prop where
  /-- A name. -/
  | identifier {name : String} (identifier : isIdentifier name = true) :
      IsBuilt (.identifier name)
  /-- The literal of a value that has one. -/
  | value {α : Type} [ToLiteral α] {content : α} {literal : Expr}
      (spelled : Expr.value content = .ok literal) : IsBuilt literal
  /-- The size of a type. -/
  | sizeofType (type : CType) : IsBuilt type.sizeof
  /-- An operation on two operands. -/
  | binary (operator : BinaryOperator) {left right : Expr} (first : IsBuilt left)
      (second : IsBuilt right) : IsBuilt (.binary operator left right)
  /-- An operation before its operand. -/
  | unary (operator : UnaryOperator) {operand : Expr} (inner : IsBuilt operand) :
      IsBuilt (.unary operator operand)
  /-- An operation after its operand. -/
  | afterwards (operator : PostfixOperator) {operand : Expr} (inner : IsBuilt operand) :
      IsBuilt (.afterwards operator operand)
  /-- An assignment. -/
  | assign (operator : AssignOperator) {target source : Expr} (first : IsBuilt target)
      (second : IsBuilt source) : IsBuilt (.assign operator target source)
  /-- A conversion. -/
  | cast (type : CType) {operand : Expr} (inner : IsBuilt operand) : IsBuilt (.cast type operand)
  /-- An expression in parentheses. -/
  | parenthesize {inner : Expr} (built : IsBuilt inner) : IsBuilt inner.parenthesize
  /-- An element of an array. -/
  | index {array position : Expr} (first : IsBuilt array) (second : IsBuilt position) :
      IsBuilt (array.index position)
  /-- A call. -/
  | call {function : Expr} {arguments : List Expr} (first : IsBuilt function)
      (others : ∀ argument ∈ arguments, IsBuilt argument) : IsBuilt (function.call arguments)
  /-- A member of a struct. -/
  | member {whole : Expr} (name : String) (first : IsBuilt whole) : IsBuilt (whole.member name)
  /-- A member of the struct that a pointer points at. -/
  | arrow {pointer : Expr} (name : String) (first : IsBuilt pointer) :
      IsBuilt (pointer.arrow name)
  /-- A choice. -/
  | conditional {condition accepted refused : Expr} (first : IsBuilt condition)
      (second : IsBuilt accepted) (third : IsBuilt refused) :
      IsBuilt (condition.conditional accepted refused)
  /-- The size of an expression. -/
  | sizeof {operand : Expr} (inner : IsBuilt operand) : IsBuilt operand.sizeof

/-- Whether a character goes on with no operator before its operand, unless it is the first one of
such an operator itself. -/
abbrev IsApart (char : Char) : Prop := char ≠ '=' ∧ char ≠ '>'

/-- Whether a text begins with a character that is apart. -/
def Opens (text : String) : Prop := ∃ char ∈ text.toList.head?, IsApart char

namespace Opens

/-- What stands after a text does not change how it begins. -/
theorem append {left : String} (opens : Opens left) (right : String) : Opens (left ++ right) := by
  obtain ⟨char, head, apart⟩ := opens
  refine ⟨char, ?_, apart⟩
  rw [String.toList_append, List.head?_append, head]
  rfl

/-- A name begins with a character that is apart. -/
theorem of_isIdentifier {name : String} (identifier : isIdentifier name = true) : Opens name := by
  obtain ⟨first, head, word, _⟩ := (Lexeme.spelled_word name identifier).starts
  refine ⟨first, head, ?_⟩
  constructor <;> rintro rfl <;> exact absurd word (by decide)

end Opens

/-- A number begins with a character that is apart. -/
theorem Opens.of_startsNumber {text : String} (starts : StartsNumber text) : Opens text := by
  obtain ⟨char, head, first⟩ := starts
  refine ⟨char, head, ?_⟩
  constructor <;> rintro rfl <;> exact absurd first (by decide)

section

variable [JsonLibrary]

/-- A literal begins with a character that is apart. -/
theorem Expr.opens_value (prints : JsonNumbers.Prints) {α : Type} [ToLiteral α] {content : α}
    {literal : Expr} (spelled : Expr.value content = .ok literal) : Opens literal.code := by
  unfold Expr.value at spelled
  cases shape : toLiteral content with
  | nonFinite => simp [shape, Literal.spelling, Except.map] at spelled
  | json value =>
    rw [shape] at spelled
    cases value with
    | null =>
      cases spelled
      exact ⟨'N', rfl, by decide⟩
    | string text =>
      cases spelled
      have quote : Opens "\"" := ⟨'"', rfl, by decide⟩
      exact (quote.append _).append _
    | number numeral =>
      cases spelled
      exact .of_startsNumber (prints.starts numeral)
    | bool value | array items | object members => cases spelled

/-- What is put together begins with a character that is apart. -/
theorem Expr.IsBuilt.opens (prints : JsonNumbers.Prints) {expr : Expr} (built : expr.IsBuilt) :
    Opens expr.code := by
  have paren : Opens "(" := ⟨'(', rfl, by decide⟩
  have size : Opens "sizeof(" := ⟨'s', rfl, by decide⟩
  induction built with
  | identifier identifier => exact .of_isIdentifier identifier
  | value spelled => exact opens_value prints spelled
  | sizeofType type => exact (size.append _).append _
  | binary operator first second ih =>
    exact (((ih.append _).append _).append _).append _
  | unary operator inner =>
    have symbol : Opens operator.symbol := by
      cases operator <;> exact ⟨_, rfl, by decide⟩
    exact symbol.append _
  | afterwards operator inner ih => exact ih.append _
  | assign operator first second ih => exact (((ih.append _).append _).append _).append _
  | cast type inner => exact ((paren.append _).append _).append _
  | parenthesize built => exact (paren.append _).append _
  | index first second ih => exact ((ih.append _).append _).append _
  | call first others ih => exact ((ih.append _).append _).append _
  | member name first ih => exact (ih.append _).append _
  | arrow name first ih => exact (ih.append _).append _
  | conditional first second third ih => exact (((ih.append _).append _).append _).append _
  | sizeof inner => exact (size.append _).append _

end

/-- What goes on with an operator before its operand in the marks that begin with it. -/
theorem UnaryOperator.next_of_prefix (operator : UnaryOperator) : ∀ longer ∈ Lexeme.marks,
    operator.symbol.toList <+: longer.toList →
      longer.toList[operator.symbol.toList.length]? ∈ [none, some '=', some '>'] ∨
        operator = .negate ∧ longer.toList[operator.symbol.toList.length]? = some '-' ∨
        operator = .addressOf ∧ longer.toList[operator.symbol.toList.length]? = some '&' := by
  cases operator <;> decide

/-- A character that is apart ends an operator, unless it is a second minus or ampersand. -/
theorem UnaryOperator.ends_of_isApart (operator : UnaryOperator) {char : Char}
    (apart : IsApart char)
    (single : ¬ (operator = .negate ∧ char = '-' ∨ operator = .addressOf ∧ char = '&')) :
    Ends operator.symbol char := by
  have unpoint : operator.symbol ≠ "." := by cases operator <;> decide
  simp only [Ends, Lexeme.isLonger, unpoint, decide_false, Bool.false_and, Bool.or_false,
    List.any_eq_false]
  intro longer listed starts
  obtain ⟨rest, shape⟩ := List.isPrefixOf_iff_prefix.1 starts
  have next : longer.toList[operator.symbol.toList.length]? = some char := by simp [← shape]
  have first : operator.symbol.toList <+: longer.toList :=
    (List.prefix_append _ _).trans ⟨rest, shape⟩
  rcases operator.next_of_prefix longer listed first with known | ⟨same, known⟩ | ⟨same, known⟩
  · simp [next, apart.1, apart.2] at known
  · exact single (.inl ⟨same, Option.some.inj (next.symm.trans known)⟩)
  · exact single (.inr ⟨same, Option.some.inj (next.symm.trans known)⟩)

/-- Whether an operator and the first character of its operand are read as another operator. -/
def Expr.Fuses (operator : UnaryOperator) (operand : Expr) : Prop :=
  operator = .negate ∧ operand.code.toList.head? = some '-' ∨
    operator = .addressOf ∧ operand.code.toList.head? = some '&'

/-- An operator and an operand that begins with a character that is apart are read one after the
other, unless they fuse. -/
theorem Expr.ofText_unary {operator : UnaryOperator} {operand : Expr} (opens : Opens operand.code)
    (single : ¬ Fuses operator operand) :
    Lexeme.ofText (unary operator operand).code =
      .mark operator.symbol :: Lexeme.ofText operand.code := by
  obtain ⟨char, head, apart⟩ := opens
  have ends : Ends operator.symbol char := by
    refine operator.ends_of_isApart apart fun fused => single ?_
    rcases fused with ⟨same, rfl⟩ | ⟨same, rfl⟩
    · exact .inl ⟨same, head⟩
    · exact .inr ⟨same, head⟩
  have cut := (Lexeme.spelled_mark operator.symbol operator.isMark).cuts operand.code.toList
    fun next first => Option.some.inj (head.symm.trans first) ▸ ends
  simpa [Lexeme.ofText, unary] using cut

/-- An operator that fuses with its operand is read as another one. -/
theorem Expr.ofText_unary_ne {operator : UnaryOperator} {operand : Expr}
    (fused : Fuses operator operand) :
    Lexeme.ofText (unary operator operand).code ≠
      .mark operator.symbol :: Lexeme.ofText operand.code := by
  have doubled (mark : String) (known : Lexeme.IsMark mark) (ends : ∀ char, Ends mark char)
      (rest : List Char) : Lexeme.scan (mark.toList ++ rest) = .mark mark :: Lexeme.scan rest :=
    (Lexeme.spelled_mark mark known).cuts rest fun char _ => ends char
  rcases fused with ⟨rfl, head⟩ | ⟨rfl, head⟩
  · obtain ⟨rest, shape⟩ := List.head?_eq_some_iff.1 head
    have cut : Lexeme.scan ('-' :: '-' :: rest) = .mark "--" :: Lexeme.scan rest :=
      doubled "--" (by decide) (fun _ => rfl) rest
    simp [Lexeme.ofText, unary, UnaryOperator.symbol, shape, cut]
  · obtain ⟨rest, shape⟩ := List.head?_eq_some_iff.1 head
    have cut : Lexeme.scan ('&' :: '&' :: rest) = .mark "&&" :: Lexeme.scan rest :=
      doubled "&&" (by decide) (fun _ => rfl) rest
    simp [Lexeme.ofText, unary, UnaryOperator.symbol, shape, cut]

/-- In front of an expression that is put together from names and literals, an operator is read as
itself and the expression as on its own, unless they fuse. All that this takes of the JSON library
is that it writes numbers as JSON has them. -/
theorem Expr.IsBuilt.ofText_unary_iff [JsonLibrary] (prints : JsonNumbers.Prints) {operand : Expr}
    (built : operand.IsBuilt) (operator : UnaryOperator) :
    Lexeme.ofText (Expr.unary operator operand).code =
      .mark operator.symbol :: Lexeme.ofText operand.code ↔ ¬ Fuses operator operand :=
  ⟨fun same fused => ofText_unary_ne fused same, ofText_unary (built.opens prints)⟩

/-- A decrement and a minus after it are two operators. -/
theorem Expr.ofText_decrement_negate :
    JsonNumbers.Prints ∧ (unary .negate (identifier "x")).IsBuilt ∧
      Lexeme.ofText (unary .decrement (unary .negate (identifier "x"))).code =
        .mark "--" :: Lexeme.ofText (unary .negate (identifier "x")).code := by
  have built : (unary .negate (identifier "x")).IsBuilt := .unary _ (.identifier (by decide))
  have single : ¬ Fuses .decrement (unary .negate (identifier "x")) := by
    rintro (⟨same, _⟩ | ⟨same, _⟩) <;> contradiction
  exact ⟨Standard.prints, built, (built.ofText_unary_iff Standard.prints .decrement).2 single⟩

/-- A minus and a minus after it are a decrement. -/
theorem Expr.ofText_negate_negate : (unary .negate (identifier "x")).IsBuilt ∧
    Lexeme.ofText (unary .negate (unary .negate (identifier "x"))).code ≠
      .mark "-" :: Lexeme.ofText (unary .negate (identifier "x")).code :=
  ⟨.unary _ (.identifier (by decide)), ofText_unary_ne (.inl ⟨rfl, rfl⟩)⟩

/-- An operand in parentheses is read apart from every operator. -/
theorem Expr.ofText_unary_parenthesize (operator : UnaryOperator) (inner : Expr) :
    Lexeme.ofText (unary operator inner.parenthesize).code =
      .mark operator.symbol :: Lexeme.ofText inner.parenthesize.code := by
  have head : inner.parenthesize.code.toList.head? = some '(' := by simp [parenthesize]
  refine ofText_unary ⟨'(', head, by decide⟩ ?_
  simp [Fuses, head]

end CSource
