import CSource.Proofs.Expr.Closed

/-!
# Expressions with closed operands

No operation adds parentheses to its operands, so that what a text says depends on how it was put
together. Where every operand is a name or stands in parentheses (`Operand`), the text says exactly
the operations that it was put together with (`Composition.phrase_iff`). Arguments of a call, the
position of an element and what stands in parentheses or in a `sizeof` need no parentheses of their
own.
-/

namespace CSource

open Grammar

/-- A name of a member. -/
structure MemberName where
  /-- The name. -/
  text : String
  /-- It is a name of C. -/
  identifier : isIdentifier text = true
  /-- It is no keyword. -/
  free : text ∉ keywords

/-- A name of a variable or function. -/
structure VariableName extends MemberName where
  /-- It is no name of a type. -/
  untyped : text ∉ typeNames

mutual

/-- An operand that is a name or stands in parentheses. -/
inductive Operand where
  /-- A name. -/
  | identifier (name : VariableName)
  /-- An expression in parentheses. -/
  | parenthesized (inner : Composition)

/-- An expression whose operands are all closed. -/
inductive Composition where
  /-- An operand on its own. -/
  | operand (alone : Operand)
  /-- A whole number that is not negative. -/
  | number (value : Nat)
  /-- An operation on two operands. -/
  | binary (operator : BinaryOperator) (left right : Operand)
  /-- An operation before its operand. -/
  | unary (operator : UnaryOperator) (operand : Operand)
  /-- An operation after its operand. -/
  | afterwards (operator : PostfixOperator) (operand : Operand)
  /-- An assignment to a target. -/
  | assign (operator : AssignOperator) (target source : Operand)
  /-- A conversion to a type. -/
  | cast (type : CType) (castable : type.IsCastable) (operand : Operand)
  /-- The size of an expression. -/
  | sizeof (inner : Composition)
  /-- The size of a type. -/
  | sizeofType (type : CType) (castable : type.IsCastable)
  /-- An element of an array. -/
  | index (array : Operand) (position : Composition)
  /-- A call of a function. -/
  | call (function : Operand) (arguments : List Composition)
  /-- A call of a function by name. -/
  | invoke (function : VariableName) (arguments : List Composition)
  /-- A member of a struct. -/
  | member (whole : Operand) (name : MemberName)
  /-- A member of the struct that a pointer points at. -/
  | arrow (pointer : Operand) (name : MemberName)
  /-- A choice between two operands. -/
  | conditional (condition accepted refused : Operand)

end

mutual

/-- The expression that is built for an operand. -/
def Operand.expr : Operand → Expr
  | .identifier name => .identifier name.text
  | .parenthesized inner => inner.expr.parenthesize

/-- The expression that is built by a composition. -/
def Composition.expr : Composition → Expr
  | .operand alone => alone.expr
  | .number value => ⟨toString value⟩
  | .binary operator left right => .binary operator left.expr right.expr
  | .unary operator operand => .unary operator operand.expr
  | .afterwards operator operand => .afterwards operator operand.expr
  | .assign operator target source => .assign operator target.expr source.expr
  | .cast type _ operand => .cast type operand.expr
  | .sizeof inner => inner.expr.sizeof
  | .sizeofType type _ => type.sizeof
  | .index array position => array.expr.index position.expr
  | .call function arguments => function.expr.call (Composition.exprs arguments)
  | .invoke function arguments => .invoke function.text (Composition.exprs arguments)
  | .member whole name => whole.expr.member name.text
  | .arrow pointer name => pointer.expr.arrow name.text
  | .conditional condition accepted refused =>
    condition.expr.conditional accepted.expr refused.expr

/-- The expressions of arguments in order. -/
def Composition.exprs : List Composition → List Expr
  | [] => []
  | argument :: arguments => argument.expr :: Composition.exprs arguments

end

mutual

/-- The operations that an operand is built with. -/
def Operand.term : Operand → Term
  | .identifier name => .identifier name.text
  | .parenthesized inner => .group inner.term

/-- The operations that a composition is built with. -/
def Composition.term : Composition → Term
  | .operand alone => alone.term
  | .number value => .constant (toString value)
  | .binary operator left right => .binary operator left.term right.term
  | .unary operator operand => .unary operator operand.term
  | .afterwards operator operand => .afterwards operator operand.term
  | .assign operator target source => .assign operator target.term source.term
  | .cast type _ operand => .cast type operand.term
  | .sizeof inner => .sizeof (.group inner.term)
  | .sizeofType type _ => .sizeofType type
  | .index array position => .index array.term position.term
  | .call function arguments => .call function.term (Composition.terms arguments)
  | .invoke function arguments => .call (.identifier function.text) (Composition.terms arguments)
  | .member whole name => .member whole.term name.text
  | .arrow pointer name => .arrow pointer.term name.text
  | .conditional condition accepted refused =>
    .conditional condition.term accepted.term refused.term

/-- The operations of arguments in order. -/
def Composition.terms : List Composition → List Term
  | [] => []
  | argument :: arguments => argument.term :: Composition.terms arguments

end

/-- The literal of a whole number that is not negative, of whatever width, is a composition. -/
theorem Composition.value_number [JsonLibrary] (converts : JsonLibrary.Converts)
    (prints : JsonNumbers.Prints) {width : Width} {content : width.Carrier} {value : Nat}
    (same : width.toInt content = value) : Expr.value content = .ok (number value).expr := by
  obtain ⟨numeral, converted, stands⟩ := converts.whole width content
  have literal : toLiteral content = .json (.number numeral) := congrArg Literal.json converted
  have text := prints.whole numeral value (stands.trans (congrArg Number.integer same))
  rw [Expr.value, literal, Literal.spelling, text]
  rfl

/-- A name of a variable is an operand. -/
theorem VariableName.isClosedAs (name : VariableName) :
    (Expr.identifier name.text).IsClosedAs (.identifier name.text) :=
  Expr.isClosedAs_identifier name.identifier name.free name.untyped

/-- A call is written with its arguments, if there are some. -/
theorem Composition.isEnclosedAs_call {function : Expr} {called : Term}
    {arguments : List Composition} (written : function.IsClosedAs called)
    (listed : arguments ≠ [] →
      Expr.AreArgumentsAs (Composition.exprs arguments) (Composition.terms arguments)) :
    (function.call (Composition.exprs arguments)).IsEnclosedAs
      (.call called (Composition.terms arguments)) := by
  cases arguments with
  | nil => exact written.invoke
  | cons argument arguments => exact written.call (listed (List.cons_ne_nil _ _))

mutual

/-- An operand is written as what it is built with. -/
theorem Operand.isClosedAs : ∀ operand : Operand, operand.expr.IsClosedAs operand.term
  | .identifier name => name.isClosedAs
  | .parenthesized inner => inner.isEnclosedAs.parenthesize

/-- A composition is written as what it is built with. -/
theorem Composition.isEnclosedAs : ∀ composition : Composition,
    composition.expr.IsEnclosedAs composition.term
  | .operand alone => alone.isClosedAs.enclosed
  | .number value => Expr.isEnclosedAs_number value
  | .binary operator left right => left.isClosedAs.binary operator right.isClosedAs
  | .unary operator operand => operand.isClosedAs.unary operator
  | .afterwards operator operand => operand.isClosedAs.afterwards operator
  | .assign operator target source => target.isClosedAs.assign operator source.isClosedAs
  | .cast _ castable operand => operand.isClosedAs.cast castable
  | .sizeof inner => inner.isEnclosedAs.sizeof
  | .sizeofType _ castable => Expr.isEnclosedAs_sizeofType castable
  | .index array position => array.isClosedAs.index position.isEnclosedAs
  | .call function arguments =>
    Composition.isEnclosedAs_call function.isClosedAs (Composition.areArgumentsAs arguments)
  | .invoke function arguments =>
    Composition.isEnclosedAs_call function.isClosedAs (Composition.areArgumentsAs arguments)
  | .member whole name => whole.isClosedAs.member name.identifier name.free
  | .arrow pointer name => pointer.isClosedAs.arrow name.identifier name.free
  | .conditional condition accepted refused =>
    condition.isClosedAs.conditional accepted.isClosedAs refused.isClosedAs

/-- Compositions are written as arguments of a call. -/
theorem Composition.areArgumentsAs : ∀ arguments : List Composition, arguments ≠ [] →
    Expr.AreArgumentsAs (Composition.exprs arguments) (Composition.terms arguments)
  | [], nonempty => absurd rfl nonempty
  | [argument], _ => argument.isEnclosedAs.argument
  | argument :: other :: others, _ =>
    argument.isEnclosedAs.arguments
      (Composition.areArgumentsAs (other :: others) (List.cons_ne_nil _ _))

end

/-- The text of a composition says what it is built with, and nothing else. -/
theorem Composition.phrase_iff (composition : Composition) (term : Term) :
    Phrase 0 (Lexeme.ofText composition.expr.code) term ↔ term = composition.term := by
  obtain ⟨tokens, phrase, spelled⟩ := composition.isEnclosedAs
  rw [spelled.ofText]
  constructor
  · intro read
    exact read.unique phrase
  · rintro rfl
    exact phrase.loosen (Nat.zero_le _)

/-- Compositions with the same text are built with the same operations. -/
theorem Composition.term_eq_of_expr_eq {left right : Composition} (same : left.expr = right.expr) :
    left.term = right.term :=
  (right.phrase_iff left.term).1 (same ▸ (left.phrase_iff left.term).2 rfl)

end CSource
