import CSource.Proofs.Expr.Lexeme

/-!
# Text without its comments

Comments are removed from left to right, each for one space, as a C compiler does it. A string or a
character in quotes is kept as it is, so that marks of comments inside it mean nothing.
-/

namespace CSource.Text

open Lexeme (isBlank isQuote literal?)

/-- A text without its comments, with a space in the place of each. -/
def strip : List Char → List Char
  | [] => []
  | '/' :: '/' :: rest => ' ' :: strip (afterLine rest)
  | '/' :: '*' :: rest => ' ' :: strip (afterBlock rest)
  | char :: rest =>
    match _found : literal? (char :: rest) with
    | some (inside, later) => inside ++ strip later
    | none => char :: strip rest
termination_by text => text.length
decreasing_by
  · exact Nat.lt_succ_of_le (Nat.le_succ_of_le (length_afterLine_le rest))
  · exact Nat.lt_succ_of_le (Nat.le_succ_of_le (length_afterBlock_le rest))
  · exact Lexeme.length_literal?_lt _found
  · exact Nat.lt_succ_self _

/-- What follows the comment that a text begins with after white space, if it begins with one. -/
def afterComment (text : List Char) : Option (List Char) :=
  match text.dropWhile isBlank with
  | '/' :: '/' :: rest => some (afterLine rest)
  | '/' :: '*' :: rest => some (afterBlock rest)
  | _ => none

/-- A comment of one line is removed up to the end of the line. -/
theorem strip_line (rest : List Char) :
    strip ('/' :: '/' :: rest) = ' ' :: strip (afterLine rest) := by
  rw [strip]

/-- A comment that may have several lines is removed up to its end. -/
theorem strip_block (rest : List Char) :
    strip ('/' :: '*' :: rest) = ' ' :: strip (afterBlock rest) := by
  rw [strip]

/-- A character that opens neither a comment nor a literal is kept. -/
theorem strip_cons {char : Char} (unslashed : char ≠ '/') (unquoted : isQuote char = false)
    (rest : List Char) : strip (char :: rest) = char :: strip rest := by
  have unopened : literal? (char :: rest) = none := by simp [literal?, unquoted]
  rw [strip.eq_4 char rest (fun _ slash _ => unslashed slash) fun _ slash _ => unslashed slash]
  split
  · rename_i found
    rw [unopened] at found
    contradiction
  · rfl

/-- Characters that open neither a comment nor a literal are kept. -/
theorem strip_append (text rest : List Char)
    (plain : ∀ char ∈ text, char ≠ '/' ∧ isQuote char = false) :
    strip (text ++ rest) = text ++ strip rest := by
  induction text with
  | nil => rfl
  | cons char text ih =>
    obtain ⟨unslashed, unquoted⟩ := plain char List.mem_cons_self
    rw [List.cons_append, strip_cons unslashed unquoted,
      ih fun next mem => plain next (List.mem_cons_of_mem _ mem), List.cons_append]

/-- White space is kept. -/
theorem strip_blank {blank : List Char} (white : ∀ char ∈ blank, isBlank char = true)
    (rest : List Char) : strip (blank ++ rest) = blank ++ strip rest := by
  refine strip_append blank rest fun char mem => ?_
  have known := white char mem
  simp only [isBlank, Bool.or_eq_true, decide_eq_true_eq] at known
  rcases known with ((((rfl | rfl) | rfl) | rfl) | rfl) | rfl <;> decide

/-- A comment of one line at the start of a text. -/
theorem afterComment_line (rest : List Char) :
    afterComment ('/' :: '/' :: rest) = some (afterLine rest) := rfl

/-- A comment that may have several lines at the start of a text. -/
theorem afterComment_block (rest : List Char) :
    afterComment ('/' :: '*' :: rest) = some (afterBlock rest) := rfl

/-- White space before a comment means nothing. -/
theorem afterComment_blank {blank : List Char} (white : ∀ char ∈ blank, isBlank char = true)
    (rest : List Char) : afterComment (blank ++ rest) = afterComment rest := by
  rw [afterComment, List.dropWhile_append_of_pos white, afterComment]

/-- A text that begins with a comment is white space and what stands after the comment, once its
comments are removed. -/
theorem strip_of_afterComment {text later : List Char} (found : afterComment text = some later) :
    ∃ blank, (∀ char ∈ blank, isBlank char = true) ∧ strip text = blank ++ strip later := by
  have parts := List.takeWhile_append_dropWhile (p := isBlank) (l := text)
  have white : ∀ char ∈ text.takeWhile isBlank ++ [' '], isBlank char = true := by
    intro char mem
    rcases List.mem_append.1 mem with inside | last
    · exact List.all_eq_true.1 List.all_takeWhile char inside
    · rw [List.mem_singleton.1 last]; rfl
  refine ⟨text.takeWhile isBlank ++ [' '], white, ?_⟩
  have before := strip_blank (fun char mem => white char (List.mem_append_left _ mem))
    (text.dropWhile isBlank)
  rw [parts] at before
  unfold afterComment at found
  split at found
  · rename_i rest shape
    obtain rfl := Option.some.inj found
    rw [before, shape, strip_line, List.append_assoc]
    rfl
  · rename_i rest shape
    obtain rfl := Option.some.inj found
    rw [before, shape, strip_block, List.append_assoc]
    rfl
  · contradiction

/-- Whether a text is another one with at most a comment before it: the comment ends right before
the line break ahead of the other text, and without their comments the two differ in white space at
their start only. -/
structure IsCommented (commented plain : List Char) : Prop where
  /-- What is added is one comment with its line break. -/
  ends : commented ≠ plain → afterComment commented = some ('\n' :: plain)
  /-- The code is the same. -/
  remains : ∃ blank, (∀ char ∈ blank, isBlank char = true) ∧
    strip commented = blank ++ strip plain

/-- A text to which nothing is added. -/
theorem IsCommented.refl (text : List Char) : IsCommented text text :=
  ⟨absurd rfl, [], List.forall_mem_nil _, rfl⟩

/-- A comment that ends right before the line break ahead of a text leaves the code of the text. -/
theorem IsCommented.of_afterComment {commented plain : List Char}
    (ends : afterComment commented = some ('\n' :: plain)) : IsCommented commented plain := by
  refine ⟨fun _ => ends, ?_⟩
  obtain ⟨blank, white, stripped⟩ := strip_of_afterComment ends
  refine ⟨blank ++ ['\n'], ?_, ?_⟩
  · exact List.forall_mem_append.2 ⟨white, List.forall_mem_singleton.2 rfl⟩
  · have broken : strip ('\n' :: plain) = '\n' :: strip plain :=
      strip_cons (by decide) (by decide) plain
    rw [stripped, broken, List.append_cons]

end CSource.Text
