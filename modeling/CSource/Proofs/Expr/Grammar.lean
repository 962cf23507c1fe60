import CSource.CType.Builtin
import CSource.CType.Spelling
import CSource.Expr.Operator
import CSource.Proofs.Expr.Lexeme

/-!
# Grammar of expressions

The grammar of C's expressions has a level for each precedence, numbered here from the loosest on:

| level | phrases |
|---|---|
| 0 | expressions, with commas between them |
| 1 | assignments |
| 2 | choices by a condition |
| 3 to 12 | operations on two operands (`BinaryOperator.level`) |
| 13 | conversions |
| 14 | operations before their operand |
| 15 | operations after their operand |
| 16 | names, constants and groups in parentheses |

A phrase of a level is also one of every looser level. Names of types are known, so that a
parenthesis before one of them opens a conversion. What a phrase says is a tree of operations
(`Term`), in which a group in parentheses is an operation of its own.
-/

namespace CSource

/-- A tree of operations. -/
inductive Term where
  /-- A variable or function. -/
  | identifier (name : String)
  /-- A number or a literal, by its spelling. -/
  | constant (text : String)
  /-- A term in parentheses. -/
  | group (inner : Term)
  /-- An element of an array. -/
  | index (array position : Term)
  /-- A call with arguments. -/
  | call (function : Term) (arguments : List Term)
  /-- A member of a struct. -/
  | member (whole : Term) (name : String)
  /-- A member of the struct that a pointer points at. -/
  | arrow (pointer : Term) (name : String)
  /-- An operation after its operand. -/
  | afterwards (operator : PostfixOperator) (operand : Term)
  /-- An operation before its operand. -/
  | unary (operator : UnaryOperator) (operand : Term)
  /-- The size of a term. -/
  | sizeof (operand : Term)
  /-- The size of a type. -/
  | sizeofType (type : CType)
  /-- A term converted to a type. -/
  | cast (type : CType) (operand : Term)
  /-- An operation on two operands. -/
  | binary (operator : BinaryOperator) (left right : Term)
  /-- A choice between two terms. -/
  | conditional (condition accepted refused : Term)
  /-- An assignment to a target. -/
  | assign (operator : AssignOperator) (target source : Term)
  /-- A term after another whose value is not used. -/
  | sequence (first second : Term)

/-- The level of operations on two operands. -/
def BinaryOperator.level : BinaryOperator → Nat
  | logicalOr => 3
  | logicalAnd => 4
  | bitOr => 5
  | bitXor => 6
  | bitAnd => 7
  | equal | notEqual => 8
  | less | lessOrEqual | greater | greaterOrEqual => 9
  | shiftLeft | shiftRight => 10
  | add | subtract => 11
  | multiply | divide | remainder => 12

/-- The level of the operand of an operation before it: an increment takes no conversion. -/
def UnaryOperator.operandLevel : UnaryOperator → Nat
  | increment | decrement => 14
  | negate | bitNot | logicalNot | addressOf | dereference => 13

/-- The standard types. -/
def CType.standard : List CType :=
  [void, bool, char, short, int, long, float, double, int8, int16, int32, int64, uint8, uint16,
    uint32, uint64, size, ptrdiff, intptr, uintptr]

namespace Grammar

/-- The words that C keeps for itself. -/
def keywords : List String :=
  ["auto", "break", "case", "char", "const", "continue", "default", "do", "double", "else", "enum",
    "extern", "float", "for", "goto", "if", "inline", "int", "long", "register", "restrict",
    "return", "short", "signed", "sizeof", "static", "struct", "switch", "typedef", "union",
    "unsigned", "void", "volatile", "while", "_Alignas", "_Alignof", "_Atomic", "_Bool", "_Complex",
    "_Generic", "_Imaginary", "_Noreturn", "_Static_assert", "_Thread_local"]

/-- The names of the standard types. -/
def typeNames : List String := CType.standard.map CType.spelling

/-- The tokens of a type: the name of a standard type and stars. -/
inductive TypeName : List Lexeme → CType → Prop where
  /-- A standard type. -/
  | standard {type : CType} (listed : type ∈ CType.standard) :
      TypeName [.word type.spelling] type
  /-- A pointer. -/
  | pointer {tokens : List Lexeme} {type : CType} (target : TypeName tokens type) :
      TypeName (tokens ++ [.mark "*"]) (.pointer type)

mutual

/-- The phrases of a level, with what they say. -/
inductive Phrase : Nat → List Lexeme → Term → Prop where
  /-- A phrase of a level is one of the next looser level. -/
  | tighter {level : Nat} {tokens : List Lexeme} {term : Term}
      (inner : Phrase (level + 1) tokens term) : Phrase level tokens term
  /-- Expressions with a comma between them. -/
  | sequence {left right : List Lexeme} {first second : Term} (before : Phrase 0 left first)
      (after : Phrase 1 right second) :
      Phrase 0 (left ++ .mark "," :: right) (.sequence first second)
  /-- An assignment binds to the right, and its target is an operand. -/
  | assign (operator : AssignOperator) {left right : List Lexeme} {target source : Term}
      (before : Phrase 14 left target) (after : Phrase 1 right source) :
      Phrase 1 (left ++ .mark operator.symbol :: right) (.assign operator target source)
  /-- A choice, between whose marks any expression may stand. -/
  | conditional {first second third : List Lexeme} {condition accepted refused : Term}
      (before : Phrase 3 first condition) (between : Phrase 0 second accepted)
      (after : Phrase 2 third refused) :
      Phrase 2 (first ++ .mark "?" :: (second ++ .mark ":" :: third))
        (.conditional condition accepted refused)
  /-- An operation on two operands binds to the left. -/
  | binary (operator : BinaryOperator) {first second : List Lexeme} {left right : Term}
      (before : Phrase operator.level first left)
      (after : Phrase (operator.level + 1) second right) :
      Phrase operator.level (first ++ .mark operator.symbol :: second) (.binary operator left right)
  /-- A conversion. -/
  | cast {named tokens : List Lexeme} {type : CType} {operand : Term} (name : TypeName named type)
      (after : Phrase 13 tokens operand) :
      Phrase 13 (.mark "(" :: (named ++ .mark ")" :: tokens)) (.cast type operand)
  /-- An operation before its operand. -/
  | unary (operator : UnaryOperator) {tokens : List Lexeme} {operand : Term}
      (after : Phrase operator.operandLevel tokens operand) :
      Phrase 14 (.mark operator.symbol :: tokens) (.unary operator operand)
  /-- The size of a term. -/
  | sizeof {tokens : List Lexeme} {operand : Term} (after : Phrase 14 tokens operand) :
      Phrase 14 (.word "sizeof" :: tokens) (.sizeof operand)
  /-- The size of a type. -/
  | sizeofType {named : List Lexeme} {type : CType} (name : TypeName named type) :
      Phrase 14 (.word "sizeof" :: .mark "(" :: (named ++ [.mark ")"])) (.sizeofType type)
  /-- An element of an array. -/
  | index {first second : List Lexeme} {array position : Term} (before : Phrase 15 first array)
      (inner : Phrase 0 second position) :
      Phrase 15 (first ++ .mark "[" :: (second ++ [.mark "]"])) (.index array position)
  /-- A call without arguments. -/
  | invoke {tokens : List Lexeme} {function : Term} (before : Phrase 15 tokens function) :
      Phrase 15 (tokens ++ [.mark "(", .mark ")"]) (.call function [])
  /-- A call with arguments. -/
  | call {first second : List Lexeme} {function : Term} {arguments : List Term}
      (before : Phrase 15 first function) (inner : Arguments second arguments) :
      Phrase 15 (first ++ .mark "(" :: (second ++ [.mark ")"])) (.call function arguments)
  /-- A member of a struct. -/
  | member {tokens : List Lexeme} {whole : Term} {name : String} (before : Phrase 15 tokens whole)
      (free : name ∉ keywords) :
      Phrase 15 (tokens ++ [.mark ".", .word name]) (.member whole name)
  /-- A member of the struct that a pointer points at. -/
  | arrow {tokens : List Lexeme} {pointer : Term} {name : String}
      (before : Phrase 15 tokens pointer) (free : name ∉ keywords) :
      Phrase 15 (tokens ++ [.mark "->", .word name]) (.arrow pointer name)
  /-- An operation after its operand. -/
  | afterwards (operator : PostfixOperator) {tokens : List Lexeme} {operand : Term}
      (before : Phrase 15 tokens operand) :
      Phrase 15 (tokens ++ [.mark operator.symbol]) (.afterwards operator operand)
  /-- A name that is neither a keyword nor the name of a type. -/
  | identifier {name : String} (free : name ∉ keywords) (untyped : name ∉ typeNames) :
      Phrase 16 [.word name] (.identifier name)
  /-- A number. -/
  | number (text : String) : Phrase 16 [.number text] (.constant text)
  /-- A literal. -/
  | literal (text : String) : Phrase 16 [.literal text] (.constant text)
  /-- An expression in parentheses. -/
  | group {tokens : List Lexeme} {inner : Term} (between : Phrase 0 tokens inner) :
      Phrase 16 (.mark "(" :: (tokens ++ [.mark ")"])) (.group inner)

/-- The arguments of a call, with commas between them. -/
inductive Arguments : List Lexeme → List Term → Prop where
  /-- One argument. -/
  | last {tokens : List Lexeme} {argument : Term} (phrase : Phrase 1 tokens argument) :
      Arguments tokens [argument]
  /-- An argument before others. -/
  | more {tokens list : List Lexeme} {argument : Term} {arguments : List Term}
      (phrase : Phrase 1 tokens argument) (others : Arguments list arguments) :
      Arguments (tokens ++ .mark "," :: list) (argument :: arguments)

end

/-- A phrase is one of every looser level. -/
theorem Phrase.loosen {level looser : Nat} {tokens : List Lexeme} {term : Term}
    (phrase : Phrase level tokens term) (loose : looser ≤ level) : Phrase looser tokens term := by
  obtain ⟨steps, rfl⟩ := Nat.exists_eq_add_of_le loose
  induction steps with
  | zero => exact phrase
  | succ steps ih => exact ih (.tighter phrase) (Nat.le_add_right _ _)

end Grammar
end CSource
