import CSource.Proofs.Expr.Grammar

/-!
# Reading expressions

A reader takes the tokens of an expression one at a time and never goes back. It remembers what the
operations that are not finished yet have so far, the innermost first. A mark that goes on with a
term first gives it to the operations that bind it tighter (`TermReader.settle`); a closing mark
gives it to all up to the one that was opened. The reader finds the one term that a phrase can say
(`Grammar.Phrase.ofTokens`), so it has no need to refuse all that is no phrase.
-/

namespace CSource

open Grammar (keywords typeNames)

/-- An operation that waits for its last operand, or for the mark that closes it. -/
inductive Frame where
  /-- An operation before its operand. -/
  | unary (operator : UnaryOperator)
  /-- The size of a term. -/
  | sizeof
  /-- A conversion. -/
  | cast (type : CType)
  /-- An operation on two operands. -/
  | binary (operator : BinaryOperator) (left : Term)
  /-- An assignment. -/
  | assign (operator : AssignOperator) (target : Term)
  /-- A choice whose last term is read. -/
  | refused (condition middle : Term)
  /-- A term after another. -/
  | sequence (first : Term)
  /-- A choice whose middle term is read, up to its second mark. -/
  | accepted (condition : Term)
  /-- A group, up to its closing parenthesis. -/
  | group
  /-- An element of an array, up to its closing bracket. -/
  | index (array : Term)
  /-- A call after some arguments, up to its closing parenthesis. -/
  | call (function : Term) (arguments : List Term)

namespace Frame

/-- What an operation makes of its last operand, unless it waits for a mark. -/
def build? : Frame → Term → Option Term
  | unary operator, operand => some (.unary operator operand)
  | sizeof, operand => some (.sizeof operand)
  | cast type, operand => some (.cast type operand)
  | binary operator left, right => some (.binary operator left right)
  | assign operator target, source => some (.assign operator target source)
  | refused condition middle, last => some (.conditional condition middle last)
  | sequence first, second => some (.sequence first second)
  | accepted _, _ | group, _ | index _, _ | call _ _, _ => none

/-- The loosest level of phrases that stand as the operand. -/
def operandLevel : Frame → Nat
  | unary operator => operator.operandLevel
  | sizeof => 14
  | cast _ => 13
  | binary operator _ => operator.level + 1
  | refused _ _ => 2
  | assign _ _ | sequence _ | call _ _ => 1
  | accepted _ | group | index _ => 0

end Frame

/-- A mark between two terms. -/
inductive Joint where
  /-- An operator between two operands. -/
  | binary (operator : BinaryOperator)
  /-- An assignment. -/
  | assign (operator : AssignOperator)
  /-- The first mark of a choice. -/
  | accepted
  /-- A comma. -/
  | sequence

namespace Joint

/-- The spelling of the mark. -/
def symbol : Joint → String
  | binary operator => operator.symbol
  | assign operator => operator.symbol
  | accepted => "?"
  | sequence => ","

/-- The level of what the mark makes of its terms. -/
def level : Joint → Nat
  | binary operator => operator.level
  | assign _ => 1
  | accepted => 2
  | sequence => 0

/-- The operation that waits for the term after the mark. -/
def frame : Joint → Term → Frame
  | binary operator, left => .binary operator left
  | assign operator, target => .assign operator target
  | accepted, condition => .accepted condition
  | sequence, first => .sequence first

/-- All marks between two terms. -/
def all : List Joint :=
  [.add, .subtract, .multiply, .divide, .remainder, .bitAnd, .bitOr, .bitXor, .shiftLeft,
    .shiftRight, .logicalAnd, .logicalOr, .equal, .notEqual, .less, .lessOrEqual, .greater,
    .greaterOrEqual].map binary ++
  [.assign, .add, .subtract, .multiply, .divide, .remainder, .bitAnd, .bitOr, .bitXor, .shiftLeft,
    .shiftRight].map assign ++ [accepted, sequence]

/-- The mark with a spelling. -/
def ofSymbol? (text : String) : Option Joint := all.find? fun joint => joint.symbol = text

/-- A mark is found by its spelling. -/
theorem ofSymbol?_symbol (joint : Joint) : ofSymbol? joint.symbol = some joint := by
  cases joint with
  | binary operator => cases operator <;> rfl
  | assign operator => cases operator <;> rfl
  | accepted => rfl
  | sequence => rfl

end Joint

/-- The operation before its operand with a spelling. -/
def UnaryOperator.ofSymbol? (text : String) : Option UnaryOperator :=
  [negate, bitNot, logicalNot, increment, decrement, addressOf, dereference].find? fun operator =>
    operator.symbol = text

/-- An operation before its operand is found by its spelling. -/
theorem UnaryOperator.ofSymbol?_symbol (operator : UnaryOperator) :
    ofSymbol? operator.symbol = some operator := by
  cases operator <;> rfl

/-- The operation after its operand with a spelling. -/
def PostfixOperator.ofSymbol? (text : String) : Option PostfixOperator :=
  [increment, decrement].find? fun operator => operator.symbol = text

/-- Where a reader stands in an expression. -/
inductive Place where
  /-- Before an operand. -/
  | before
  /-- After a term. -/
  | after (term : Term)
  /-- In the name of a type in parentheses. -/
  | type (type : CType)
  /-- Before the name of a member of a struct. -/
  | member (whole : Term)
  /-- Before the name of a member of the struct that a pointer points at. -/
  | arrow (pointer : Term)

/-- A reader of an expression. -/
structure TermReader where
  /-- Where it stands. -/
  place : Place
  /-- The operations that are not finished yet, the innermost first. -/
  frames : List Frame

namespace TermReader

/-- A term given to the operations whose operands are tighter than a level, as far as these wait for
nothing else, and the operations around them. -/
def settle (level : Nat) (term : Term) : List Frame → Term × List Frame
  | [] => (term, [])
  | frame :: frames =>
    if frame.operandLevel ≤ level then (term, frame :: frames)
    else
      match frame.build? term with
      | some built => settle level built frames
      | none => (term, frame :: frames)

/-- The reader after a mark between two terms. In a call a comma stands between two arguments. -/
def join (joint : Joint) (term : Term) (frames : List Frame) : TermReader :=
  match joint, settle joint.level term frames with
  | .sequence, (argument, .call function arguments :: around) =>
    ⟨.before, .call function (arguments ++ [argument]) :: around⟩
  | joint, (left, around) => ⟨.before, joint.frame left :: around⟩

/-- The reader after a mark that closes the innermost operation which waits for one. -/
def close (text : String) (term : Term) (frames : List Frame) : Option TermReader :=
  match settle 0 term frames with
  | (inner, .group :: around) => if text = ")" then some ⟨.after (.group inner), around⟩ else none
  | (argument, .call function arguments :: around) =>
    if text = ")" then some ⟨.after (.call function (arguments ++ [argument])), around⟩ else none
  | (position, .index array :: around) =>
    if text = "]" then some ⟨.after (.index array position), around⟩ else none
  | (accepted, .accepted condition :: around) =>
    if text = ":" then some ⟨.before, .refused condition accepted :: around⟩ else none
  | _ => none

/-- The reader after a token. -/
def step : TermReader → Lexeme → Option TermReader
  | ⟨.before, frames⟩, .word text =>
    if text = "sizeof" then some ⟨.before, .sizeof :: frames⟩
    else
      match CType.standard.find? (fun type => type.spelling = text), frames with
      | some type, .group :: around => some ⟨.type type, around⟩
      | some _, _ => none
      | none, frames => some ⟨.after (.identifier text), frames⟩
  | ⟨.before, frames⟩, .number text => some ⟨.after (.constant text), frames⟩
  | ⟨.before, frames⟩, .literal text => some ⟨.after (.constant text), frames⟩
  | ⟨.before, frames⟩, .mark text =>
    if text = "(" then some ⟨.before, .group :: frames⟩
    else
      match UnaryOperator.ofSymbol? text, frames with
      | some operator, frames => some ⟨.before, .unary operator :: frames⟩
      | none, .call function [] :: around => some ⟨.after (.call function []), around⟩
      | none, _ => none
  | ⟨.after term, frames⟩, .mark text =>
    if text = "(" then some ⟨.before, .call term [] :: frames⟩
    else if text = "[" then some ⟨.before, .index term :: frames⟩
    else if text = "." then some ⟨.member term, frames⟩
    else if text = "->" then some ⟨.arrow term, frames⟩
    else
      match PostfixOperator.ofSymbol? text, Joint.ofSymbol? text with
      | some operator, _ => some ⟨.after (.afterwards operator term), frames⟩
      | none, some joint => some (join joint term frames)
      | none, none => close text term frames
  | ⟨.member whole, frames⟩, .word name => some ⟨.after (.member whole name), frames⟩
  | ⟨.arrow pointer, frames⟩, .word name => some ⟨.after (.arrow pointer name), frames⟩
  | ⟨.type type, frames⟩, .mark text =>
    if text = "*" then some ⟨.type type.pointer, frames⟩
    else
      match frames with
      | .sizeof :: around => some ⟨.after (.sizeofType type), around⟩
      | frames => some ⟨.before, .cast type :: frames⟩
  | _, _ => none

/-- The reader after some tokens. -/
def run (reader : TermReader) (tokens : List Lexeme) : Option TermReader :=
  tokens.foldlM step reader

/-- Reading two lists in a row is reading one after the other. -/
theorem run_append (reader : TermReader) (left right : List Lexeme) :
    reader.run (left ++ right) = (reader.run left).bind (run · right) := by
  simp [run, List.foldlM_append]

/-- Reading no token changes nothing. -/
@[simp] theorem run_nil (reader : TermReader) : reader.run [] = some reader := rfl

/-- The first token is read first. -/
@[simp] theorem run_cons (reader : TermReader) (token : Lexeme) (tokens : List Lexeme) :
    reader.run (token :: tokens) = (reader.step token).bind (run · tokens) := rfl

/-- What has been read, if nothing is left to wait for. -/
def finish : TermReader → Option Term
  | ⟨.after term, frames⟩ =>
    match settle 0 term frames with
    | (whole, []) => some whole
    | _ => none
  | _ => none

end TermReader

/-- The term that some tokens say. -/
def Term.ofTokens (tokens : List Lexeme) : Option Term :=
  (TermReader.run ⟨.before, []⟩ tokens).bind TermReader.finish

end CSource
