import CSource.Proofs.Expr.Reader

/-!
# The grammar of expressions is unambiguous

What a phrase says is what the reader makes of its tokens, so tokens say one thing at most
(`Grammar.Phrase.unique`). After a phrase the reader has some of its operations still unfinished.
These bind it tighter than any mark that can go on with the phrase (`Pending`), so that such a mark
finishes them all, and leaves alone what was unfinished before the phrase.
-/

namespace CSource

open Grammar
open TermReader (settle run)

/-- The levels of operations on two operands. -/
theorem BinaryOperator.level_bounds (operator : BinaryOperator) :
    3 ≤ operator.level ∧ operator.level ≤ 12 := by
  cases operator <;> decide

/-- The levels of the operands of operations before them. -/
theorem UnaryOperator.operandLevel_bounds (operator : UnaryOperator) :
    13 ≤ operator.operandLevel ∧ operator.operandLevel ≤ 14 := by
  cases operator <;> decide

/-- Operands stand at level 14 at the tightest. -/
theorem Frame.operandLevel_le (frame : Frame) : frame.operandLevel ≤ 14 := by
  cases frame with
  | unary operator => exact operator.operandLevel_bounds.2
  | binary operator left =>
    exact Nat.le_trans (Nat.succ_le_succ operator.level_bounds.2) (by decide)
  | sizeof => exact Nat.le_refl _
  | cast | assign | refused | sequence | accepted | group | index | call =>
    exact Nat.le_of_ble_eq_true rfl

/-- Whether phrases of a level may stand as the operand of the innermost operation. -/
def Accepts (level : Nat) : List Frame → Prop
  | [] => True
  | frame :: _ => frame.operandLevel ≤ level

/-- Phrases of tighter levels may stand where those of looser levels may. -/
theorem Accepts.tighter {level tighter : Nat} {frames : List Frame} (accepts : Accepts level frames)
    (tight : level ≤ tighter) : Accepts tighter frames := by
  cases frames with
  | nil => trivial
  | cons frame frames => exact Nat.le_trans accepts tight

/-- A term that may stand as an operand is left to what comes after it. -/
theorem settle_of_accepts {level : Nat} {around : List Frame} (accepts : Accepts level around)
    (term : Term) : settle level term around = (term, around) := by
  cases around with
  | nil => rfl
  | cons frame around => exact if_pos accepts

/-- An operation that waits for a mark takes no term. -/
theorem settle_of_build?_eq_none (level : Nat) {frame : Frame} {term : Term}
    (opened : frame.build? term = none) (around : List Frame) :
    settle level term (frame :: around) = (term, frame :: around) := by
  simp [settle, opened]

/-- The tightest level of what a mark makes of a phrase of the given level before it. No operation
is unfinished after a phrase that can stand before an opening bracket. -/
def Grammar.markLevel (level : Nat) : Nat :=
  if level < 3 then 0 else if level < 13 then level else if level < 15 then 12 else 14

/-- Tighter phrases stand before marks of as tight a level. -/
theorem Grammar.markLevel_mono {level tighter : Nat} (tight : level ≤ tighter) :
    markLevel level ≤ markLevel tighter := by
  unfold markLevel
  repeat' split
  all_goals omega

/-- Such a mark is no tighter than the phrase. -/
theorem Grammar.markLevel_le (level : Nat) : markLevel level ≤ level := by
  unfold markLevel
  repeat' split
  all_goals omega

/-- A mark of as tight a level may stand after an operand of an operation on two. -/
theorem BinaryOperator.markLevel_level (operator : BinaryOperator) :
    markLevel operator.level = operator.level := by
  cases operator <;> rfl

/-- Any operator between two operands may stand after an operation before its operand. -/
theorem UnaryOperator.markLevel_operandLevel (operator : UnaryOperator) :
    markLevel operator.operandLevel = 12 := by
  cases operator <;> rfl

/-- Unfinished operations, the innermost first, that make a term of another one, and whose operands
are all tighter than a level. -/
inductive Pending (level : Nat) : Term → List Frame → Term → Prop where
  /-- Nothing is unfinished. -/
  | done (term : Term) : Pending level term [] term
  /-- The innermost operation has the term as its operand. -/
  | more {frame : Frame} {frames : List Frame} {term built whole : Term}
      (made : frame.build? term = some built) (tight : level < frame.operandLevel)
      (others : Pending level built frames whole) : Pending level term (frame :: frames) whole

namespace Pending

variable {level looser : Nat} {term whole : Term} {frames : List Frame}

/-- Operands tighter than a level are tighter than a looser one. -/
theorem loosen (pending : Pending level term frames whole) (loose : looser ≤ level) :
    Pending looser term frames whole := by
  induction pending with
  | done term => exact .done term
  | more made tight others ih => exact .more made (Nat.lt_of_le_of_lt loose tight) ih

/-- One more operation around unfinished ones. -/
theorem snoc {frame : Frame} {built : Term} (pending : Pending level term frames whole)
    (made : frame.build? whole = some built) (tight : level < frame.operandLevel) :
    Pending level term (frames ++ [frame]) built := by
  induction pending with
  | done term => exact .more made tight (.done built)
  | more first wide others ih => exact .more first wide (ih made)

/-- A mark that is loose enough finishes unfinished operations. -/
theorem settle (pending : Pending level term frames whole) (loose : looser ≤ level)
    (around : List Frame) :
    TermReader.settle looser term (frames ++ around) = TermReader.settle looser whole around := by
  induction pending with
  | done term => rfl
  | @more frame frames term built whole made tight others ih =>
    have inner : ¬ frame.operandLevel ≤ looser :=
      Nat.not_le_of_lt (Nat.lt_of_le_of_lt loose tight)
    rw [← ih, List.cons_append, TermReader.settle, if_neg inner, made]

/-- No operand is tighter than the tightest level of operands. -/
theorem eq_of_tight (pending : Pending 14 term frames whole) : frames = [] ∧ term = whole := by
  cases pending with
  | done => exact ⟨rfl, rfl⟩
  | @more frame _ _ _ _ _ tight => exact absurd tight (Nat.not_lt_of_le frame.operandLevel_le)

end Pending

/-- The spelling of a mark between two terms is that of no other mark after a term. -/
theorem Joint.symbol_ne (joint : Joint) : joint.symbol ≠ "(" ∧ joint.symbol ≠ "[" ∧
    joint.symbol ≠ "." ∧ joint.symbol ≠ "->" ∧ PostfixOperator.ofSymbol? joint.symbol = none := by
  cases joint with
  | binary operator => cases operator <;> decide
  | assign operator => cases operator <;> decide
  | accepted => decide
  | sequence => decide

/-- A mark between two terms is read as such. -/
theorem step_joint (joint : Joint) (term : Term) (frames : List Frame) :
    TermReader.step ⟨.after term, frames⟩ (.mark joint.symbol) =
      some (TermReader.join joint term frames) := by
  obtain ⟨paren, bracket, point, arrow, postfixed⟩ := joint.symbol_ne
  simp [TermReader.step, paren, bracket, point, arrow, postfixed, Joint.ofSymbol?_symbol]

/-- A closing mark is read as such. -/
theorem step_closing {text : String} (listed : text ∈ [")", "]", ":"]) (term : Term)
    (frames : List Frame) :
    TermReader.step ⟨.after term, frames⟩ (.mark text) = TermReader.close text term frames := by
  simp only [List.mem_cons, List.not_mem_nil, or_false] at listed
  rcases listed with rfl | rfl | rfl <;> rfl

/-- An operation before its operand is read as such. -/
theorem step_unary (operator : UnaryOperator) (frames : List Frame) :
    TermReader.step ⟨.before, frames⟩ (.mark operator.symbol) =
      some ⟨.before, .unary operator :: frames⟩ := by
  have paren : operator.symbol ≠ "(" := by cases operator <;> decide
  simp [TermReader.step, paren, UnaryOperator.ofSymbol?_symbol]

/-- An operation after its operand is read as such. -/
theorem step_afterwards (operator : PostfixOperator) (term : Term) (frames : List Frame) :
    TermReader.step ⟨.after term, frames⟩ (.mark operator.symbol) =
      some ⟨.after (.afterwards operator term), frames⟩ := by
  cases operator <;> rfl

/-- A name that is neither a keyword nor the name of a type is read as such. -/
theorem step_identifier {name : String} (free : name ∉ keywords) (untyped : name ∉ typeNames)
    (frames : List Frame) :
    TermReader.step ⟨.before, frames⟩ (.word name) = some ⟨.after (.identifier name), frames⟩ := by
  have unsized : name ≠ "sizeof" := by
    rintro rfl
    exact free (by decide)
  have unlisted : CType.standard.find? (fun type => type.spelling = name) = none := by
    rw [List.find?_eq_none]
    intro type listed same
    exact untyped (List.mem_map.2 ⟨type, listed, of_decide_eq_true same⟩)
  simp [TermReader.step, unsized, unlisted]

/-- A parenthesis before an operand is read as the start of a group. -/
theorem step_group (frames : List Frame) :
    TermReader.step ⟨.before, frames⟩ (.mark "(") = some ⟨.before, .group :: frames⟩ := rfl

/-- A parenthesis after the name of a type starts the operand of a conversion where one may
stand. -/
theorem step_cast {around : List Frame} (accepts : Accepts 13 around) (type : CType) :
    TermReader.step ⟨.type type, around⟩ (.mark ")") = some ⟨.before, .cast type :: around⟩ := by
  cases around with
  | nil => rfl
  | cons frame around =>
    cases frame with
    | sizeof => exact absurd accepts (Nat.not_succ_le_self 13)
    | _ => rfl

/-- The standard types are found by their names, which are no keywords of expressions. -/
theorem find?_standard : ∀ type ∈ CType.standard, type.spelling ≠ "sizeof" ∧
    CType.standard.find? (fun other => other.spelling = type.spelling) = some type := by
  simp only [CType.standard, List.forall_mem_cons]
  and_intros
  all_goals first | decide | rfl

/-- The name of a type after an opening parenthesis is read as such. -/
theorem Grammar.TypeName.run {tokens : List Lexeme} {type : CType} (named : TypeName tokens type)
    (around : List Frame) :
    TermReader.run ⟨.before, .group :: around⟩ tokens = some ⟨.type type, around⟩ := by
  induction named with
  | @standard type listed =>
    obtain ⟨unsized, found⟩ := find?_standard type listed
    simp [TermReader.step, unsized, found]
  | pointer target ih =>
    rw [TermReader.run_append, ih]
    rfl

/-- Whether some tokens are read as a term wherever a phrase of the level may stand. -/
def Reads (level : Nat) (tokens : List Lexeme) (term : Term) : Prop :=
  ∀ around, Accepts level around → ∃ inner frames,
    run ⟨.before, around⟩ tokens = some ⟨.after inner, frames ++ around⟩ ∧
      Pending (markLevel level) inner frames term

/-- A mark between two terms leaves what may stand around both unfinished. -/
theorem join_of_settle (joint : Joint) {inner left : Term} {frames around : List Frame}
    (settled : settle joint.level inner frames = (left, around))
    (accepts : Accepts joint.level around) :
    TermReader.join joint inner frames = ⟨.before, joint.frame left :: around⟩ := by
  unfold TermReader.join
  rw [settled]
  split
  · rename_i same
    obtain ⟨_, rfl⟩ := Prod.mk.inj same
    exact absurd accepts (Nat.not_succ_le_zero 0)
  · rename_i same
    obtain ⟨rfl, rfl⟩ := Prod.mk.inj same
    rfl

namespace Reads

variable {level leftLevel : Nat} {tokens left : List Lexeme} {first term : Term}

/-- A term that the reader stands right after. -/
theorem of_run (reads : ∀ around, Accepts level around →
    run ⟨.before, around⟩ tokens = some ⟨.after term, around⟩) : Reads level tokens term :=
  fun around accepts => ⟨term, [], reads around accepts, .done term⟩

/-- After a phrase that can stand before an opening bracket the reader stands right after what it
says. -/
theorem run (reads : Reads 15 tokens term) {around : List Frame} (accepts : Accepts 15 around) :
    TermReader.run ⟨.before, around⟩ tokens = some ⟨.after term, around⟩ := by
  obtain ⟨inner, frames, found, pending⟩ := reads around accepts
  obtain ⟨rfl, rfl⟩ := pending.eq_of_tight
  exact found

/-- An operation whose operand comes last. -/
theorem operand {operandLevel : Nat} (opening : List Lexeme) (frame : Frame)
    (reads : Reads operandLevel tokens first)
    (opens : ∀ around, Accepts level around →
      TermReader.run ⟨.before, around⟩ opening = some ⟨.before, frame :: around⟩)
    (made : frame.build? first = some term) (accepts : frame.operandLevel ≤ operandLevel)
    (tight : markLevel level < frame.operandLevel)
    (loose : markLevel level ≤ markLevel operandLevel) :
    Reads level (opening ++ tokens) term := by
  intro around accepted
  obtain ⟨inner, frames, found, pending⟩ := reads (frame :: around) accepts
  refine ⟨inner, frames ++ [frame], ?_, (pending.loosen loose).snoc made tight⟩
  rw [TermReader.run_append, opens around accepted]
  simpa using found

/-- A closing mark takes all that was read since what it closes was opened. -/
theorem enclosed (frame : Frame) {after : TermReader} {text : String} {around : List Frame}
    (reads : Reads level tokens term) (accepts : frame.operandLevel ≤ level)
    (opened : frame.build? term = none) (listed : text ∈ [")", "]", ":"])
    (closes : TermReader.close text term (frame :: around) = some after) :
    TermReader.run ⟨.before, frame :: around⟩ (tokens ++ [.mark text]) = some after := by
  obtain ⟨inner, frames, found, pending⟩ := reads (frame :: around) accepts
  have settled := (pending.settle (Nat.zero_le _) (frame :: around)).trans
    (settle_of_build?_eq_none 0 opened around)
  have closed : TermReader.close text inner (frames ++ frame :: around) = some after := by
    rw [← closes, TermReader.close, TermReader.close, settled, settle_of_build?_eq_none 0 opened]
  rw [TermReader.run_append, found]
  simp [step_closing listed, closed]

/-- An operation whose operand comes first. -/
theorem continued {later : List Lexeme} (reads : Reads 15 tokens first)
    (later_reads : ∀ around,
      TermReader.run ⟨.after first, around⟩ later = some ⟨.after term, around⟩) :
    Reads 15 (tokens ++ later) term :=
  of_run fun around accepts => by
    rw [TermReader.run_append, reads.run accepts]
    exact later_reads around

/-- A mark after a term that is tight enough. -/
theorem opens (joint : Joint) (reads : Reads leftLevel left first)
    (loose : joint.level ≤ markLevel leftLevel) {around : List Frame}
    (accepts : Accepts joint.level around) :
    TermReader.run ⟨.before, around⟩ (left ++ [.mark joint.symbol]) =
      some ⟨.before, joint.frame first :: around⟩ := by
  obtain ⟨inner, frames, found, pending⟩ :=
    reads around (accepts.tighter (Nat.le_trans loose (markLevel_le leftLevel)))
  have settled := (pending.settle loose around).trans (settle_of_accepts accepts first)
  rw [TermReader.run_append, found]
  simp [step_joint, join_of_settle joint settled accepts]

/-- Two terms with a mark between them. -/
theorem joined {rightLevel : Nat} {right : List Lexeme} {second term : Term} (joint : Joint)
    (reads : Reads leftLevel left first) (later : Reads rightLevel right second)
    (loose : joint.level ≤ markLevel leftLevel)
    (made : (joint.frame first).build? second = some term)
    (accepts : (joint.frame first).operandLevel ≤ rightLevel)
    (tight : markLevel joint.level < (joint.frame first).operandLevel)
    (looser : markLevel joint.level ≤ markLevel rightLevel) :
    Reads joint.level (left ++ .mark joint.symbol :: right) term := by
  rw [List.append_cons]
  exact later.operand _ _ (fun around accepted => reads.opens joint loose accepted) made accepts
    tight looser

end Reads

mutual

/-- A phrase is read as what it says. -/
theorem Grammar.Phrase.reads {level : Nat} {tokens : List Lexeme} {term : Term} :
    Phrase level tokens term → Reads level tokens term
  | .tighter inner => fun around accepts => by
    obtain ⟨last, frames, found, pending⟩ := inner.reads around (accepts.tighter (Nat.le_succ _))
    exact ⟨last, frames, found, pending.loosen (markLevel_mono (Nat.le_succ _))⟩
  | .sequence before after =>
    before.reads.joined .sequence after.reads (Nat.zero_le _) rfl (Nat.le_refl 1) Nat.one_pos
      (Nat.zero_le _)
  | .assign operator before after =>
    before.reads.joined (.assign operator) after.reads (Nat.le_add_left 1 11) rfl (Nat.le_refl 1)
      Nat.one_pos (Nat.zero_le _)
  | @Phrase.conditional first second third condition accepted refused before between after => by
    have shape : first ++ .mark "?" :: (second ++ .mark ":" :: third) =
        ((first ++ [.mark "?"]) ++ (second ++ [.mark ":"])) ++ third := by simp
    rw [shape]
    refine after.reads.operand _ (.refused condition accepted) (fun around accepts => ?_) rfl
      (Nat.le_refl _) Nat.two_pos (Nat.zero_le _)
    have opened : run ⟨.before, around⟩ (first ++ [.mark "?"]) =
        some ⟨.before, .accepted condition :: around⟩ :=
      before.reads.opens .accepted (Nat.le_succ 2) accepts
    rw [TermReader.run_append, opened]
    exact between.reads.enclosed (.accepted condition) (Nat.le_refl _) rfl (by decide) rfl
  | .binary operator before after =>
    have same : markLevel operator.level = operator.level := operator.markLevel_level
    before.reads.joined (.binary operator) after.reads (Nat.le_of_eq same.symm) rfl (Nat.le_refl _)
      (Nat.lt_succ_of_le (Nat.le_of_eq same)) (markLevel_mono (Nat.le_succ _))
  | @Phrase.cast named tokens type operand name after => by
    rw [List.append_cons, ← List.cons_append]
    refine after.reads.operand _ (.cast type) (fun around accepts => ?_) rfl (Nat.le_refl _)
      (Nat.le_refl _) (Nat.le_refl _)
    simp [step_group, TermReader.run_append, name.run, step_cast accepts]
  | .unary operator after =>
    after.reads.operand [.mark operator.symbol] (.unary operator)
      (fun around _ => by simp [step_unary]) rfl (Nat.le_refl _) operator.operandLevel_bounds.1
      (Nat.le_of_eq operator.markLevel_operandLevel.symm)
  | .sizeof after =>
    after.reads.operand [.word "sizeof"] .sizeof (fun around _ => rfl) rfl
      (Nat.le_refl _) (by decide) (by decide)
  | @Phrase.sizeofType named type name =>
    .of_run fun around _ => by
      have sized : TermReader.step ⟨.before, around⟩ (.word "sizeof") =
          some ⟨.before, .sizeof :: around⟩ := rfl
      have closed : TermReader.step ⟨.type type, .sizeof :: around⟩ (.mark ")") =
          some ⟨.after (.sizeofType type), around⟩ := rfl
      simp [sized, step_group, TermReader.run_append, name.run, closed]
  | .index before inner =>
    before.reads.continued fun around =>
      inner.reads.enclosed (.index _) (Nat.le_refl _) rfl (by decide) rfl
  | .invoke before => before.reads.continued fun around => rfl
  | .call before inner => before.reads.continued fun around => inner.reads _ [] around
  | .member before _ => before.reads.continued fun around => rfl
  | .arrow before _ => before.reads.continued fun around => rfl
  | .afterwards operator before =>
    before.reads.continued fun around => by simp [step_afterwards]
  | .identifier free untyped =>
    .of_run fun around _ => by simp [step_identifier free untyped]
  | .number text => .of_run fun _ _ => rfl
  | .literal text => .of_run fun _ _ => rfl
  | .group between =>
    .of_run fun around _ => between.reads.enclosed .group (Nat.le_refl _) rfl (by decide) rfl

/-- The arguments of a call are read as the rest of the call. -/
theorem Grammar.Arguments.reads {tokens : List Lexeme} {arguments : List Term} :
    Arguments tokens arguments → ∀ (function : Term) (before : List Term) (around : List Frame),
      run ⟨.before, .call function before :: around⟩ (tokens ++ [.mark ")"]) =
        some ⟨.after (.call function (before ++ arguments)), around⟩
  | .last phrase => fun function before around =>
    phrase.reads.enclosed (.call function before) (Nat.le_refl _) rfl (by decide) rfl
  | @Arguments.more tokens list argument arguments phrase others => fun function before around => by
    obtain ⟨inner, frames, found, pending⟩ :=
      phrase.reads (.call function before :: around) (Nat.le_refl _)
    have settled := (pending.settle (Nat.zero_le _) (.call function before :: around)).trans
      (settle_of_build?_eq_none 0 rfl around)
    have comma : TermReader.step ⟨.after inner, frames ++ .call function before :: around⟩
        (.mark ",") = some ⟨.before, .call function (before ++ [argument]) :: around⟩ := by
      rw [show "," = Joint.sequence.symbol from rfl, step_joint]
      simp [TermReader.join, Joint.level, settled]
    have later := others.reads function (before ++ [argument]) around
    rw [List.append_assoc, List.cons_append, TermReader.run_append, found]
    simpa [comma] using later

end

/-- A phrase says what the reader makes of its tokens. -/
theorem Grammar.Phrase.ofTokens {tokens : List Lexeme} {term : Term}
    (phrase : Phrase 0 tokens term) : Term.ofTokens tokens = some term := by
  obtain ⟨inner, frames, found, pending⟩ := phrase.reads [] trivial
  have settled : settle 0 inner (frames ++ []) = (term, []) := pending.settle (Nat.zero_le _) []
  rw [List.append_nil] at found settled
  simp [Term.ofTokens, found, TermReader.finish, settled]

/-- Tokens are a phrase of one term at most. -/
theorem Grammar.Phrase.unique {level other : Nat} {tokens : List Lexeme} {first second : Term}
    (phrase : Phrase level tokens first) (alternative : Phrase other tokens second) :
    first = second := by
  have one := (phrase.loosen (Nat.zero_le _)).ofTokens
  have two := (alternative.loosen (Nat.zero_le _)).ofTokens
  exact Option.some.inj (one.symm.trans two)

end CSource
