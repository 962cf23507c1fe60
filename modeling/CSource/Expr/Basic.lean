import CSource.Expr.Operator
import CSource.Layout.Instruction
import CSource.Literal.Convert
import CSource.Literal.Standard

/-!
# Expressions

An expression is the text of a piece of code. Operations put the texts of their operands around
the spelling of an operator and add no parentheses of their own: where precedence asks for them,
`Expr.parenthesize` writes them. Two expressions are equal when their texts are.
-/

namespace CSource

/-- A piece of code that stands for a value. -/
structure Expr where
  /-- The text, without an end of statement. -/
  code : String
deriving DecidableEq, Repr

instance : ToString Expr := ⟨Expr.code⟩

namespace Expr

/-- The literal of a value, unless it has no spelling in C. -/
def value [JsonLibrary] {α : Type} [ToLiteral α] (content : α) : Except UnsupportedValue Expr :=
  (toLiteral content).spelling.map Expr.mk

/-- A name. -/
def identifier (name : String) : Expr := ⟨name⟩

/-- The null pointer constant. -/
def null : Expr := ⟨"NULL"⟩

/-- An operation on two operands. -/
def binary (operator : BinaryOperator) (left right : Expr) : Expr :=
  ⟨left.code ++ " " ++ operator.symbol ++ " " ++ right.code⟩

/-- An operation written before its operand. -/
def unary (operator : UnaryOperator) (operand : Expr) : Expr :=
  ⟨operator.symbol ++ operand.code⟩

/-- An operation written after its operand. -/
def afterwards (operator : PostfixOperator) (operand : Expr) : Expr :=
  ⟨operand.code ++ operator.symbol⟩

/-- An assignment to a target. -/
def assign (operator : AssignOperator) (target source : Expr) : Expr :=
  ⟨target.code ++ " " ++ operator.symbol ++ " " ++ source.code⟩

/-- An expression in parentheses. -/
def parenthesize (inner : Expr) : Expr := ⟨"(" ++ inner.code ++ ")"⟩

/-- An element of an array. -/
def index (array position : Expr) : Expr := ⟨array.code ++ "[" ++ position.code ++ "]"⟩

/-- A call of a function with arguments. -/
def call (function : Expr) (arguments : List Expr) : Expr :=
  ⟨function.code ++ "(" ++ ", ".intercalate (arguments.map code) ++ ")"⟩

/-- A call of a function by name. -/
def invoke (name : String) (arguments : List Expr) : Expr :=
  (identifier name).call arguments

/-- A member of a struct. -/
def member (whole : Expr) (name : String) : Expr := ⟨whole.code ++ "." ++ name⟩

/-- A member of the struct that a pointer points at. -/
def arrow (pointer : Expr) (name : String) : Expr := ⟨pointer.code ++ "->" ++ name⟩

/-- A choice between two expressions. -/
def conditional (condition accepted refused : Expr) : Expr :=
  ⟨condition.code ++ " ? " ++ accepted.code ++ " : " ++ refused.code⟩

/-- The size of an expression. -/
def sizeof (operand : Expr) : Expr := ⟨"sizeof(" ++ operand.code ++ ")"⟩

end Expr

/-- An expression on its own is a statement. -/
instance : Render Expr where
  instructions expr := [.line (expr.code ++ ";")]

end CSource
