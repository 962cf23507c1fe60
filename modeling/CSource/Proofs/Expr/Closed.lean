import CSource.Proofs.Expr.Spelled
import CSource.Proofs.Expr.Unambiguous

/-!
# Operations on closed operands

A name or an expression in parentheses is an operand of every operation (`Expr.IsClosedAs`). What is
put together from such operands may stand where a bracket or a comma comes after it
(`Expr.IsEnclosedAs`). There is one lemma for each way to put expressions together: its text is a
phrase of C's grammar, and the phrase says the operation that was meant.
-/

namespace CSource

open Grammar
open Lexeme (Spelled Ends IsMark IsNameStart IsNameEnd IsNumberEnd)

/-! ## What stands next to operands -/

/-- Whether a character stands first in an operand. -/
def IsOperandStart (char : Char) : Prop := IsNameStart char ∨ char = '('

/-- Whether a character closes what an expression stands in. -/
def IsClosing (char : Char) : Prop := char = ')' ∨ char = ']' ∨ char = ','

/-- Closing characters end names. -/
theorem IsClosing.nameEnd {char : Char} (closing : IsClosing char) : IsNameEnd char := by
  rcases closing with rfl | rfl | rfl <;> exact ⟨by decide, by decide⟩

/-- Closing characters end numbers. -/
theorem IsClosing.numberEnd {char : Char} (closing : IsClosing char) : IsNumberEnd char := by
  rcases closing with rfl | rfl | rfl <;> exact ⟨by decide, by decide, by decide, by decide⟩

/-- Operands end every mark. -/
theorem IsOperandStart.ends {char : Char} (start : IsOperandStart char) {text : String}
    (listed : text ∈ Lexeme.marks) : Ends text char := by
  rcases start with name | rfl
  · exact name.ends text
  · exact Lexeme.ends_paren listed

/-- Closing brackets are closing characters. -/
theorem isClosing_of_mem {bracket : String} (listed : bracket ∈ [")", "]"]) {char : Char}
    (first : char ∈ bracket.toList.head?) : IsClosing char := by
  simp only [List.mem_cons, List.not_mem_nil, or_false] at listed
  rcases listed with rfl | rfl <;> cases first
  · exact .inl rfl
  · exact .inr (.inl rfl)

/-- A space ends names. -/
theorem isNameEnd_space : IsNameEnd ' ' := ⟨by decide, by decide⟩

namespace Lexeme.Spelled

variable {first : Char → Prop} {left text : String} {leading tokens : List Lexeme}

/-- An opening bracket after an operand. -/
theorem opened (before : Spelled first IsNameEnd text tokens) (bracket : String)
    (listed : bracket ∈ ["(", "["]) :
    Spelled first (fun _ => True) (text ++ bracket) (tokens ++ [.mark bracket]) := by
  have known : bracket ∈ ["(", ")", "[", "]", ","] := by
    revert bracket
    decide
  have mark : IsMark bracket := by
    revert bracket
    decide
  exact before.append (spelled_bracket bracket known) fun _ first => mark.nameEnd first

/-- A closing bracket after what it encloses. -/
theorem closed (before : Spelled first (fun _ => True) left leading)
    (inner : Spelled (fun _ => True) IsClosing text tokens) (bracket : String)
    (listed : bracket ∈ [")", "]"]) :
    Spelled first (fun _ => True) (left ++ text ++ bracket)
      (leading ++ tokens ++ [.mark bracket]) := by
  have known : bracket ∈ ["(", ")", "[", "]", ","] := by
    revert bracket
    decide
  exact (before.append inner fun _ _ => trivial).append (spelled_bracket bracket known)
    fun _ first => isClosing_of_mem listed first

/-- A mark and a name after an operand. -/
theorem selected (before : Spelled first IsNameEnd text tokens) {mark name : String}
    (known : IsMark mark) (identifier : isIdentifier name = true) :
    Spelled first IsNameEnd (text ++ mark ++ name) (tokens ++ [.mark mark, .word name]) := by
  have marked := before.append (spelled_mark mark known) fun _ first => known.nameEnd first
  have named := marked.append (spelled_word name identifier) fun _ start => start.ends mark
  exact named.of_eq (by simp)

end Lexeme.Spelled

/-- The operator of sizes with the parenthesis after it. -/
theorem spelled_sizeof :
    Spelled IsNameStart (fun _ => True) "sizeof(" [.word "sizeof", .mark "("] :=
  (Lexeme.spelled_word "sizeof" (by decide)).opened "(" (by decide)

/-! ## Types of conversions -/

/-- A standard type, or a pointer to one of these types. -/
inductive CType.IsCastable : CType → Prop where
  /-- A standard type. -/
  | standard {type : CType} (listed : type ∈ CType.standard) : IsCastable type
  /-- A pointer. -/
  | pointer {type : CType} (target : IsCastable type) : IsCastable (.pointer type)

/-- The standard types are spelled by a name of C. -/
theorem named_standard : ∀ type ∈ CType.standard,
    ∃ name, type = .named name ∧ isIdentifier name = true := by
  simp only [CType.standard, List.forall_mem_cons]
  and_intros
  all_goals first | exact ⟨_, rfl, by decide⟩ | simp

namespace CType.IsCastable

variable {type : CType}

/-- The star of a pointer to such a type stands with the type. -/
theorem unsuffixed (castable : type.IsCastable) :
    type.bindsTighter = false ∧ type.starPlace = .target := by
  induction castable with
  | standard listed =>
    obtain ⟨name, rfl, _⟩ := named_standard _ listed
    exact ⟨rfl, rfl⟩
  | pointer target ih => simp [CType.bindsTighter, CType.starPlace, ih]

/-- A pointer is spelled as its target with a star. -/
theorem spelling_pointer (castable : type.IsCastable) :
    (CType.pointer type).spelling = type.spelling ++ "*" := by
  simp [CType.spelling, CType.declarator, CType.attach, castable.unsuffixed]

/-- Such a type is spelled as its name. -/
theorem spelled (castable : type.IsCastable) : ∃ tokens, TypeName tokens type ∧
    Spelled IsNameStart (fun char => char = '*' ∨ char = ')') type.spelling tokens := by
  induction castable with
  | @standard type listed =>
    refine ⟨_, .standard listed, ?_⟩
    obtain ⟨name, rfl, identifier⟩ := named_standard type listed
    refine (Lexeme.spelled_word name identifier).mono (fun _ => id) fun char ends => ?_
    rcases ends with rfl | rfl <;> exact ⟨by decide, by decide⟩
  | @pointer type target ih =>
    obtain ⟨tokens, named, spelled⟩ := ih
    refine ⟨_, .pointer named, ?_⟩
    rw [target.spelling_pointer]
    have star : Spelled (· = '*') (Ends "*") "*" [.mark "*"] :=
      (Lexeme.spelled_mark "*" (by decide)).mono (by simp) fun _ => id
    refine (spelled.append star fun _ => .inl).mono (fun _ => id) fun char ends => ?_
    rcases ends with rfl | rfl <;> decide

end CType.IsCastable

/-! ## Expressions as phrases -/

/-- Whether a text is a phrase of a level, and which characters may stand first in it and after
it. -/
def SpellsPhrase (level : Nat) (first next : Char → Prop) (text : String) (term : Term) : Prop :=
  ∃ tokens, Phrase level tokens term ∧ Spelled first next text tokens

namespace Expr

/-- Whether an expression is written as an operand of any operation, and says a term. -/
def IsClosedAs (expr : Expr) (term : Term) : Prop :=
  SpellsPhrase 16 IsOperandStart IsNameEnd expr.code term

/-- Whether an expression is written as a phrase where a bracket or a comma comes after it, and says
a term. -/
def IsEnclosedAs (expr : Expr) (term : Term) : Prop :=
  SpellsPhrase 1 (fun _ => True) IsClosing expr.code term

/-- Whether expressions with commas between them are written as arguments, and say some terms. -/
def AreArgumentsAs (arguments : List Expr) (terms : List Term) : Prop :=
  ∃ tokens, Arguments tokens terms ∧
    Spelled (fun _ => True) IsClosing (", ".intercalate (arguments.map code)) tokens

/-- A phrase is enclosed if its text can stand before what closes an expression. -/
theorem IsEnclosedAs.of_spelled {level : Nat} {first next : Char → Prop} {expr : Expr} {term : Term}
    {tokens leading : List Lexeme} (phrase : Phrase level tokens term) (tight : 1 ≤ level)
    (spelled : Spelled first next expr.code leading) (same : leading = tokens)
    (ends : ∀ char, IsClosing char → next char) : expr.IsEnclosedAs term :=
  ⟨tokens, phrase.loosen tight, (spelled.of_eq same).mono (fun _ _ => trivial) ends⟩

/-- A name is an operand. -/
theorem isClosedAs_identifier {name : String} (known : isIdentifier name = true)
    (free : name ∉ keywords) (untyped : name ∉ typeNames) :
    (identifier name).IsClosedAs (.identifier name) :=
  ⟨_, .identifier free untyped,
    (Lexeme.spelled_word name known).mono (fun _ start => .inl start) fun _ => id⟩

/-- A number is enclosed. -/
theorem isEnclosedAs_number (value : Nat) :
    IsEnclosedAs ⟨toString value⟩ (.constant (toString value)) :=
  .of_spelled (.number _) (Nat.le_add_left 1 15) (Lexeme.spelled_number value) rfl
    fun _ => IsClosing.numberEnd

/-- The size of a type is enclosed. -/
theorem isEnclosedAs_sizeofType {type : CType} (castable : type.IsCastable) :
    type.sizeof.IsEnclosedAs (.sizeofType type) := by
  obtain ⟨named, name, spelling⟩ := castable.spelled
  have inside := spelled_sizeof.append spelling fun _ _ => trivial
  have spelled := inside.append (Lexeme.spelled_bracket ")" (by decide)) (by simp)
  exact .of_spelled (.sizeofType name) (Nat.le_add_left 1 13) spelled rfl fun _ _ => trivial

namespace IsEnclosedAs

variable {inner : Expr} {term : Term}

/-- What is enclosed is an operand once it stands in parentheses. -/
theorem parenthesize (written : inner.IsEnclosedAs term) :
    inner.parenthesize.IsClosedAs (.group term) := by
  obtain ⟨tokens, phrase, spelled⟩ := written
  have grouped := (Lexeme.spelled_bracket "(" (by decide)).closed spelled ")" (by decide)
  exact ⟨_, .group (phrase.loosen (Nat.zero_le 1)),
    grouped.mono (fun _ first => .inr (by simpa using first.symm)) fun _ _ => trivial⟩

/-- The size of what is enclosed is enclosed. -/
theorem sizeof (written : inner.IsEnclosedAs term) :
    inner.sizeof.IsEnclosedAs (.sizeof (.group term)) := by
  obtain ⟨tokens, phrase, spelled⟩ := written
  have group := Phrase.group (phrase.loosen (Nat.zero_le 1))
  exact .of_spelled (.sizeof (group.loosen (Nat.le_add_left 14 2))) (Nat.le_add_left 1 13)
    (spelled_sizeof.closed spelled ")" (by decide)) rfl fun _ _ => trivial

/-- One argument. -/
theorem argument (written : inner.IsEnclosedAs term) : AreArgumentsAs [inner] [term] := by
  obtain ⟨tokens, phrase, spelled⟩ := written
  exact ⟨tokens, .last phrase, by simpa using spelled⟩

/-- An argument before others. -/
theorem arguments (written : inner.IsEnclosedAs term) {next : Expr} {others : List Expr}
    {terms : List Term} (listed : AreArgumentsAs (next :: others) terms) :
    AreArgumentsAs (inner :: next :: others) (term :: terms) := by
  obtain ⟨tokens, phrase, spelled⟩ := written
  obtain ⟨list, arguments, later⟩ := listed
  have comma : Spelled (· = ',') (fun _ => True) ", " [.mark ","] :=
    ((Lexeme.spelled_bracket "," (by decide)).append Lexeme.spelled_space
      fun _ _ => trivial).mono (by simp) fun _ => id
  have separated := spelled.append comma fun _ comma => .inr (.inr comma)
  have all := separated.append later fun _ _ => trivial
  exact ⟨_, .more phrase arguments,
    by simpa [String.intercalate_cons_cons, String.append_assoc] using all⟩

end IsEnclosedAs

namespace IsClosedAs

variable {expr left right : Expr} {term first second : Term}

/-- An operand is enclosed. -/
theorem enclosed (written : expr.IsClosedAs term) : expr.IsEnclosedAs term := by
  obtain ⟨tokens, phrase, spelled⟩ := written
  exact .of_spelled phrase (Nat.le_add_left 1 15) spelled rfl fun _ => IsClosing.nameEnd

/-- An operation on two operands. -/
theorem binary (operator : BinaryOperator) (before : left.IsClosedAs first)
    (after : right.IsClosedAs second) :
    (Expr.binary operator left right).IsEnclosedAs (.binary operator first second) := by
  obtain ⟨_, leading, before⟩ := before
  obtain ⟨_, trailing, after⟩ := after
  obtain ⟨low, high⟩ := operator.level_bounds
  have phrase := Phrase.binary operator (leading.loosen (by omega)) (trailing.loosen (by omega))
  have spelled := before.between after operator.isMark isNameEnd_space
  exact .of_spelled phrase (by omega) spelled rfl fun _ => IsClosing.nameEnd

/-- An assignment to an operand. -/
theorem assign (operator : AssignOperator) (before : left.IsClosedAs first)
    (after : right.IsClosedAs second) :
    (Expr.assign operator left right).IsEnclosedAs (.assign operator first second) := by
  obtain ⟨_, leading, before⟩ := before
  obtain ⟨_, trailing, after⟩ := after
  have phrase := Phrase.assign operator (leading.loosen (by omega)) (trailing.loosen (by omega))
  have spelled := before.between after operator.isMark isNameEnd_space
  exact .of_spelled phrase (Nat.le_refl 1) spelled rfl fun _ => IsClosing.nameEnd

/-- An operation before its operand. -/
theorem unary (operator : UnaryOperator) (written : expr.IsClosedAs term) :
    (Expr.unary operator expr).IsEnclosedAs (.unary operator term) := by
  obtain ⟨_, phrase, after⟩ := written
  have bound := operator.operandLevel_bounds.2
  have mark := Lexeme.spelled_mark operator.symbol operator.isMark
  have spelled := mark.append after fun _ start => start.ends operator.isMark.1
  exact .of_spelled (.unary operator (phrase.loosen (by omega))) (Nat.le_add_left 1 13) spelled
    rfl fun _ => IsClosing.nameEnd

/-- An operation after its operand. -/
theorem afterwards (operator : PostfixOperator) (written : expr.IsClosedAs term) :
    (Expr.afterwards operator expr).IsEnclosedAs (.afterwards operator term) := by
  obtain ⟨_, phrase, before⟩ := written
  have mark := Lexeme.spelled_mark operator.symbol operator.isMark
  have spelled := before.append mark fun _ first => operator.isMark.nameEnd first
  have ends : ∀ char, IsClosing char → Ends operator.symbol char := by
    rintro _ (rfl | rfl | rfl) <;> cases operator <;> decide
  exact .of_spelled (.afterwards operator (phrase.loosen (Nat.le_succ 15))) (Nat.le_add_left 1 14)
    spelled rfl ends

/-- A conversion of an operand. -/
theorem cast {type : CType} (castable : type.IsCastable) (written : expr.IsClosedAs term) :
    (Expr.cast type expr).IsEnclosedAs (.cast type term) := by
  obtain ⟨named, name, spelling⟩ := castable.spelled
  obtain ⟨_, phrase, after⟩ := written
  have inside := (Lexeme.spelled_bracket "(" (by decide)).append spelling fun _ _ => trivial
  have close : Spelled (· = ')') (fun _ => True) ") " [.mark ")"] :=
    ((Lexeme.spelled_bracket ")" (by decide)).append Lexeme.spelled_space
      fun _ _ => trivial).mono (by simp) fun _ => id
  have spelled := (inside.append close fun _ => .inr).append after fun _ _ => trivial
  exact .of_spelled (.cast name (phrase.loosen (Nat.le_add_left 13 3))) (Nat.le_add_left 1 12)
    spelled (by simp) fun _ => IsClosing.nameEnd

/-- An element of an array that is an operand. -/
theorem index (before : left.IsClosedAs first) (inner : right.IsEnclosedAs second) :
    (Expr.index left right).IsEnclosedAs (.index first second) := by
  obtain ⟨_, outer, before⟩ := before
  obtain ⟨_, position, spelled⟩ := inner
  have phrase := Phrase.index (outer.loosen (Nat.le_succ 15)) (position.loosen (Nat.zero_le 1))
  exact .of_spelled phrase (Nat.le_add_left 1 14)
    ((before.opened "[" (by decide)).closed spelled "]" (by decide)) (by simp) fun _ _ => trivial

/-- A call of an operand without arguments. -/
theorem invoke (written : expr.IsClosedAs term) : (expr.call []).IsEnclosedAs (.call term []) := by
  obtain ⟨_, phrase, before⟩ := written
  have spelled := (before.opened "(" (by decide)).append (Lexeme.spelled_bracket ")" (by decide))
    fun _ _ => trivial
  exact .of_spelled (.invoke (phrase.loosen (Nat.le_succ 15))) (Nat.le_add_left 1 14)
    (by simpa [Expr.call] using spelled) (by simp) fun _ _ => trivial

/-- A call of an operand with arguments. -/
theorem call (written : expr.IsClosedAs term) {arguments : List Expr} {terms : List Term}
    (listed : AreArgumentsAs arguments terms) :
    (expr.call arguments).IsEnclosedAs (.call term terms) := by
  obtain ⟨_, outer, before⟩ := written
  obtain ⟨_, inner, spelled⟩ := listed
  exact .of_spelled (.call (outer.loosen (Nat.le_succ 15)) inner) (Nat.le_add_left 1 14)
    ((before.opened "(" (by decide)).closed spelled ")" (by decide)) (by simp) fun _ _ => trivial

/-- A member of an operand. -/
theorem member (written : expr.IsClosedAs term) {name : String} (known : isIdentifier name = true)
    (free : name ∉ keywords) : (expr.member name).IsEnclosedAs (.member term name) := by
  obtain ⟨_, phrase, before⟩ := written
  exact .of_spelled (.member (phrase.loosen (Nat.le_succ 15)) free) (Nat.le_add_left 1 14)
    (before.selected (by decide) known) rfl fun _ => IsClosing.nameEnd

/-- A member of what an operand points at. -/
theorem arrow (written : expr.IsClosedAs term) {name : String} (known : isIdentifier name = true)
    (free : name ∉ keywords) : (expr.arrow name).IsEnclosedAs (.arrow term name) := by
  obtain ⟨_, phrase, before⟩ := written
  exact .of_spelled (.arrow (phrase.loosen (Nat.le_succ 15)) free) (Nat.le_add_left 1 14)
    (before.selected (by decide) known) rfl fun _ => IsClosing.nameEnd

/-- A choice between operands. -/
theorem conditional {condition : Expr} {tested : Term} (asked : condition.IsClosedAs tested)
    (accepted : left.IsClosedAs first) (refused : right.IsClosedAs second) :
    (Expr.conditional condition left right).IsEnclosedAs (.conditional tested first second) := by
  obtain ⟨_, test, before⟩ := asked
  obtain ⟨_, yes, between⟩ := accepted
  obtain ⟨_, no, after⟩ := refused
  have question : Spelled (· = ' ') (fun _ => True) " ? " [.mark "?"] :=
    Lexeme.spelled_spaced "?" (by decide)
  have colon : Spelled (· = ' ') (fun _ => True) " : " [.mark ":"] :=
    Lexeme.spelled_spaced ":" (by decide)
  have opened := before.append question fun _ space => space ▸ isNameEnd_space
  have chosen := (opened.append between fun _ _ => trivial).append colon
    fun _ space => space ▸ isNameEnd_space
  have spelled := chosen.append after fun _ _ => trivial
  have phrase := Phrase.conditional (test.loosen (Nat.le_add_left 3 13))
    (yes.loosen (Nat.zero_le 16)) (no.loosen (Nat.le_add_left 2 14))
  exact .of_spelled phrase (Nat.le_succ 1) spelled (by simp) fun _ => IsClosing.nameEnd

end IsClosedAs
end Expr
end CSource
