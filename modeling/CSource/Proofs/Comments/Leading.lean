import CSource.Declaration.Basic
import CSource.Item.Build
import CSource.Item.SourceUnit
import CSource.Proofs.Item.Nesting
import CSource.Proofs.Layout.Shown
import CSource.Proofs.Text.Strip

/-!
# Comments and the code after them

Everything that carries comments is written after them. A comment is meant to end with the line
that it is written to, or with the mark that closes it. The text of its lines is written as it is,
so that it does so only for texts that hold no end of their own (`Comments.IsContained`). For these,
and for no others, a compiler sees the code as if there were no comment
(`Comments.isContained_iff_isCommented`).
-/

namespace CSource

open Commented (withComments)
open Lexeme (isBlank)
open Text (afterComment strip StaysOnLine)

/-- Comments on their own carry themselves. -/
instance : Commented Comments where
  comments := id
  withComments _ comments := comments

/-- Things that are written after their comments. -/
class LeadingComments (α : Type) [Render α] [Commented α] : Prop where
  /-- The instructions of the comments stand before those of the thing without them. -/
  instructions_withComments : ∀ (thing : α) (comments : Comments),
    instructions (withComments thing comments) =
      instructions comments ++ instructions (withComments thing .empty)

instance : LeadingComments Comments := ⟨fun _ _ => (List.append_nil _).symm⟩
instance : LeadingComments Declaration := ⟨fun _ _ => rfl⟩
instance : LeadingComments Prototype := ⟨fun _ _ => rfl⟩
instance : LeadingComments Typedef := ⟨fun _ _ => rfl⟩
instance : LeadingComments Include := ⟨fun _ _ => rfl⟩
instance : LeadingComments SourceUnit := ⟨fun _ _ => rfl⟩
instance : LeadingComments Enumeration := ⟨fun _ _ => List.append_assoc _ _ _⟩
instance : LeadingComments Block := ⟨fun _ _ => List.append_assoc _ _ _⟩
instance : LeadingComments Function where
  instructions_withComments function comments := by
    let rest := instructions function.prototype.comments ++
      (Block.opening function.prototype.text ::
        Instruction.nested (Item.layoutAll function.body)) ++ [Block.closing none]
    have layout (written : Comments) :
        instructions (withComments function written) = instructions written ++ rest :=
      (congrArg (· ++ [Block.closing none]) (List.append_assoc _ _ _)).trans
        (List.append_assoc _ _ _)
    rw [layout comments, layout .empty]
    rfl

/-- The margin of a line is white space. -/
theorem Indent.isBlank_margin (style : Indent) (level : Nat) :
    ∀ char ∈ (style.margin level).toList, isBlank char = true := by
  intro char mem
  rcases mem_margin mem with rfl | rfl <;> decide

namespace Comments

/-- Whether comments end where they are meant to: a text of its own line stays on it, and no text of
several holds the mark that closes them all. -/
def IsContained (comments : Comments) : Prop :=
  match comments.lines with
  | [] => True
  | [line] => StaysOnLine line.toList
  | lines => ∀ line ∈ lines, ¬ ['*', '/'] <:+: line.toList

/-- The lines between the marks of a comment of several lines, up to the mark that closes it. -/
def inside (margin : List Char) : List String → List Char
  | [] => margin ++ [' ']
  | line :: lines =>
    margin ++ [' ', '*', ' '] ++ (line.toList ++ ('\n' :: inside margin lines))

/-- The lines of a comment of several lines are written inside its marks. -/
theorem shown_rows (style : Indent) (level : Nat) (lines : List String) :
    Page.shown style level
        (lines.map (fun line => .line (" * " ++ line)) ++ [.line " */"]) =
      inside (style.margin level).toList lines ++ ['*', '/', '\n'] := by
  induction lines with
  | nil => simp [Page.shown_line, inside]
  | cons line lines ih => simp [Page.shown_line, inside, ih]

/-- A line break is no part of the end of a comment. -/
theorem infix_break (text : List Char) :
    ['*', '/'] <:+: '\n' :: text ↔ ['*', '/'] <:+: text := by
  have first : ¬ ['*', '/'] <+: '\n' :: text := by
    rintro ⟨later, shape⟩
    exact absurd (List.cons.inj shape).1 (by decide)
  rw [List.infix_cons_iff]
  simp only [first, false_or]

/-- The end of a comment stands inside its marks only where one of its lines holds it. -/
theorem infix_inside {margin : List Char} (white : ∀ char ∈ margin, isBlank char = true)
    (lines : List String) :
    ['*', '/'] <:+: inside margin lines ↔ ∃ line ∈ lines, ['*', '/'] <:+: line.toList := by
  have slash : '/' ∉ margin := fun mem => absurd (white _ mem) (by decide)
  have free (text : List Char) (unslashed : '/' ∉ text) : ¬ ['*', '/'] <:+: text := fun inside =>
    unslashed (inside.subset (by simp))
  induction lines with
  | nil => simpa [inside] using free (margin ++ [' ']) (by simp [slash])
  | cons line lines ih =>
    have opening := free (margin ++ [' ', '*', ' ']) (by simp [slash])
    have whole := Text.infix_append_iff (margin ++ [' ', '*', ' '])
      (line.toList ++ '\n' :: inside margin lines) (.inl (by simp))
    have rest := Text.infix_append_iff line.toList ('\n' :: inside margin lines) (.inr (by simp))
    rw [inside, whole, rest, infix_break]
    simp [opening, ih]

/-- Comments end with what is written for them exactly when they are contained. -/
theorem afterComment_iff {comments : Comments} (nonempty : comments.lines ≠ []) (style : Indent)
    (level : Nat) (rest : List Char) :
    afterComment (Page.shown style level (instructions comments) ++ rest) =
      some ('\n' :: rest) ↔ comments.IsContained := by
  have white := style.isBlank_margin level
  obtain ⟨lines⟩ := comments
  match lines with
  | [] => exact absurd rfl nonempty
  | [line] =>
    have written : Page.shown style level (instructions (⟨[line]⟩ : Comments)) ++ rest =
        (style.margin level).toList ++ '/' :: '/' :: (' ' :: line.toList ++ '\n' :: rest) := by
      simp [instructions, Page.shown_line]
    rw [written, Text.afterComment_blank white, Text.afterComment_line, Option.some_inj,
      Text.afterLine_append_iff,
      Text.staysOnLine_cons (by decide) fun space => absurd space (by decide)]
    rfl
  | first :: second :: others =>
    have opened : instructions (⟨first :: second :: others⟩ : Comments) =
        .line "/*" :: ((first :: second :: others).map (fun line => .line (" * " ++ line)) ++
          [.line " */"]) := rfl
    have written : Page.shown style level (instructions (⟨first :: second :: others⟩ : Comments)) ++
        rest = (style.margin level).toList ++ '/' :: '*' ::
          ('\n' :: inside (style.margin level).toList (first :: second :: others) ++
            '*' :: '/' :: '\n' :: rest) := by
      rw [opened, Page.shown_line, shown_rows]
      simp
    rw [written, Text.afterComment_blank white, Text.afterComment_block, Option.some_inj,
      Text.afterBlock_append_iff, infix_break, infix_inside white, not_exists]
    simp [IsContained]

/-- Comments with a line leave a text. -/
theorem shown_ne_nil {comments : Comments} (nonempty : comments.lines ≠ []) (style : Indent)
    (level : Nat) : Page.shown style level (instructions comments) ≠ [] := by
  obtain ⟨lines⟩ := comments
  match lines with
  | [] => exact absurd rfl nonempty
  | [line] => simp [instructions, Page.shown_line]
  | first :: second :: others =>
    simp [instructions, Page.shown_line]

/-- Comments are contained exactly when they leave the code of everything that can carry them as it
is, whatever follows it. -/
theorem isContained_iff_isCommented (comments : Comments) :
    comments.IsContained ↔
      ∀ (α : Type) [Render α] [Commented α] [LeadingComments α] (thing : α) (style : Indent)
        (level : Nat) (rest : List Char),
        Text.IsCommented
          (Page.shown style level (instructions (withComments thing comments)) ++ rest)
          (Page.shown style level (instructions (withComments thing .empty)) ++ rest) := by
  constructor
  · intro contained α _ _ _ thing style level rest
    rw [LeadingComments.instructions_withComments thing comments,
      Page.shown_append (isFlat_comments comments), List.append_assoc]
    by_cases nothing : comments.lines = []
    · obtain rfl : comments = .empty := by cases comments; exact congrArg Comments.mk nothing
      exact .refl _
    · exact .of_afterComment ((afterComment_iff nothing style level _).2 contained)
  · intro harmless
    by_cases nothing : comments.lines = []
    · unfold IsContained
      rw [nothing]
      trivial
    · -- Comments on their own are a thing too, and what stands after them is then any text.
      have alone := (harmless Comments comments .standard 0 []).ends
      rw [List.append_nil, List.append_nil] at alone
      have ends := alone (shown_ne_nil nothing .standard 0)
      exact (afterComment_iff nothing .standard 0 []).1 (by rwa [List.append_nil])

/-- A comment before an inclusion leaves it as it is. -/
theorem isCommented_described : IsContained ⟨["input and output"]⟩ ∧
    Text.IsCommented
      (Page.shown .tab 0
        (instructions (withComments (Include.system "stdio.h") ⟨["input and output"]⟩)) ++ [])
      (Page.shown .tab 0
        (instructions (withComments (Include.system "stdio.h") .empty)) ++ []) := by
  have contained : IsContained ⟨["input and output"]⟩ :=
    StaysOnLine.of_not_mem (by decide) (by decide)
  have leaves := (isContained_iff_isCommented _).1 contained
  exact ⟨contained, leaves Include (.system "stdio.h") .tab 0 []⟩

/-- A line break in the only line of a comment lets its rest be code. -/
theorem not_isCommented_broken : ¬ Text.IsCommented
    (Page.shown .standard 0 (instructions (withComments Comments.empty ⟨["a\nint x;"]⟩)))
    (Page.shown .standard 0 (instructions (withComments Comments.empty .empty))) := by
  intro harmless
  obtain ⟨blank, white, same⟩ := harmless.remains
  have line : instructions (withComments Comments.empty ⟨["a\nint x;"]⟩) =
      [.line "// a\nint x;"] := rfl
  have none : instructions (withComments Comments.empty .empty) = [] := rfl
  have written : Page.shown .standard 0 [.line "// a\nint x;"] =
      '/' :: '/' :: " a\nint x;\n".toList := by
    rw [Page.shown_line, Page.shown_nil]
    rfl
  have ended : Text.afterLine " a\nint x;\n".toList = "\nint x;\n".toList := by decide
  have kept : strip "\nint x;\n".toList = "\nint x;\n".toList ++ strip [] := by
    simpa using Text.strip_append "\nint x;\n".toList [] (by simp [Lexeme.isQuote])
  rw [line, written, Text.strip_line, ended, kept, none, Page.shown_nil, Text.strip,
    List.append_nil, List.append_nil] at same
  have char := white 'i' (same ▸ by decide)
  contradiction

end Comments
end CSource
