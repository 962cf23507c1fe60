/-!
# Operators

The operators of C by the place they take: between two operands, before one, or after one, and
the assignments.
-/

namespace CSource

/-- Operators between two operands. -/
inductive BinaryOperator where
  | add | subtract | multiply | divide | remainder
  | bitAnd | bitOr | bitXor | shiftLeft | shiftRight
  | logicalAnd | logicalOr
  | equal | notEqual | less | lessOrEqual | greater | greaterOrEqual
deriving DecidableEq, Repr

/-- The spelling of an operator between two operands. -/
def BinaryOperator.symbol : BinaryOperator → String
  | add => "+"
  | subtract => "-"
  | multiply => "*"
  | divide => "/"
  | remainder => "%"
  | bitAnd => "&"
  | bitOr => "|"
  | bitXor => "^"
  | shiftLeft => "<<"
  | shiftRight => ">>"
  | logicalAnd => "&&"
  | logicalOr => "||"
  | equal => "=="
  | notEqual => "!="
  | less => "<"
  | lessOrEqual => "<="
  | greater => ">"
  | greaterOrEqual => ">="

/-- Operators before their operand. -/
inductive UnaryOperator where
  | negate | bitNot | logicalNot | increment | decrement | addressOf | dereference
deriving DecidableEq, Repr

/-- The spelling of an operator before its operand. -/
def UnaryOperator.symbol : UnaryOperator → String
  | negate => "-"
  | bitNot => "~"
  | logicalNot => "!"
  | increment => "++"
  | decrement => "--"
  | addressOf => "&"
  | dereference => "*"

/-- Operators after their operand. -/
inductive PostfixOperator where
  | increment | decrement
deriving DecidableEq, Repr

/-- The spelling of an operator after its operand. -/
def PostfixOperator.symbol : PostfixOperator → String
  | increment => "++"
  | decrement => "--"

/-- Assignments: the plain one, and those that first compute with the old value. -/
inductive AssignOperator where
  | assign | add | subtract | multiply | divide | remainder
  | bitAnd | bitOr | bitXor | shiftLeft | shiftRight
deriving DecidableEq, Repr

/-- The spelling of an assignment. -/
def AssignOperator.symbol : AssignOperator → String
  | assign => "="
  | add => "+="
  | subtract => "-="
  | multiply => "*="
  | divide => "/="
  | remainder => "%="
  | bitAnd => "&="
  | bitOr => "|="
  | bitXor => "^="
  | shiftLeft => "<<="
  | shiftRight => ">>="

end CSource
