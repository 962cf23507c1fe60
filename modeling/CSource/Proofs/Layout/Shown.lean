import CSource.Proofs.Layout.Nesting
import CSource.Proofs.Text.Lines

/-!
# Text of instructions

A page only ever appends, so that instructions write the same text on every page of a style and a
level (`Page.toList_text_follow`). What stands before others and changes no depth writes its text
before theirs (`Page.shown_append`).
-/

namespace CSource

open Instruction (IsFlat)

/-- The margin of a level is the unit of the style for each level. -/
theorem Indent.margin_eq_join (style : Indent) (level : Nat) :
    style.margin level = String.join (List.replicate level style.unit) := by
  induction level with
  | zero => rfl
  | succ level ih => rw [margin, List.replicate_succ, String.join_cons, ih]

namespace Page

/-- The text that instructions write from a level on. -/
def shown (style : Indent) (level : Nat) (steps : List Instruction) : List Char :=
  ((⟨style, level, ""⟩ : Page).follow steps).text.toList

/-- No instruction writes nothing. -/
@[simp] theorem shown_nil (style : Indent) (level : Nat) : shown style level [] = [] := by
  simp [shown]

/-- A page keeps its style. -/
theorem follow_style (page : Page) (steps : List Instruction) :
    (page.follow steps).style = page.style := by
  induction steps generalizing page with
  | nil => rfl
  | cons step steps ih => exact ih (page.write step)

/-- A page gets the text of the instructions that it follows. -/
theorem toList_text_follow (page : Page) (steps : List Instruction) :
    (page.follow steps).text.toList =
      page.text.toList ++ shown page.style page.level steps := by
  induction steps generalizing page with
  | nil => simp [shown]
  | cons step steps ih =>
    have whole := ih (page.write step)
    have fresh := ih ((⟨page.style, page.level, ""⟩ : Page).write step)
    rw [follow_cons, whole, shown, shown, follow_cons, fresh]
    simp [write, shown]

/-- A page gets the text of the instructions after its own. -/
theorem text_follow (page : Page) (steps : List Instruction) :
    (page.follow steps).text =
      page.text ++ String.ofList (shown page.style page.level steps) := by
  apply String.toList_inj.1
  rw [toList_text_follow, String.toList_append, String.toList_ofList]

/-- A line is written with its margin before the lines after it. -/
theorem shown_line (style : Indent) (level : Nat) (text : String) (steps : List Instruction) :
    shown style level (.line text :: steps) =
      (style.margin level).toList ++ (text.toList ++ '\n' :: shown style level steps) := by
  rw [shown, follow_cons, toList_text_follow]
  simp [write, appended, levelAfter]

/-- A written line is the first line of the text. -/
theorem lines_shown_line {text : String} (unbroken : '\n' ∉ text.toList)
    (uncut : text.toList.getLast? ≠ some '\r') (style : Indent) (level : Nat)
    (steps : List Instruction) :
    Text.lines (shown style level (.line text :: steps)) =
      ((style.margin level).toList ++ text.toList) :: Text.lines (shown style level steps) := by
  rw [shown_line, ← List.append_assoc]
  apply Text.lines_append_cons
  · intro mem
    rcases List.mem_append.1 mem with outside | inside
    · rcases Indent.mem_margin outside with same | same <;> contradiction
    · exact unbroken inside
  · rw [List.getLast?_append]
    intro last
    rcases Option.or_eq_some_iff.1 last with inside | ⟨_, outside⟩
    · exact uncut inside
    · rcases Indent.mem_margin (List.mem_of_getLast? outside) with same | same <;> contradiction

/-- Instructions that change no depth are followed by those after them at the same level. -/
theorem shown_append {left : List Instruction} (flat : IsFlat left) (style : Indent) (level : Nat)
    (right : List Instruction) :
    shown style level (left ++ right) = shown style level left ++ shown style level right := by
  have same := (Instruction.Writes.flat flat).balanced.levelAfterAll level
  have unstyled := follow_style ⟨style, level, ""⟩ left
  rw [shown, follow_append, toList_text_follow, Instruction.level_follow, same, unstyled]
  rfl

/-- Instructions that change no depth are followed one level deeper, and those after them at the
level before. -/
theorem shown_nested {body : List Instruction} (flat : IsFlat body) (style : Indent) (level : Nat)
    (steps : List Instruction) :
    shown style level (Instruction.nested body ++ steps) =
      shown style (level + 1) body ++ shown style level steps := by
  have whole : Instruction.nested body ++ steps = .indent :: (body ++ .dedent :: steps) := by
    simp [Instruction.nested]
  have deeper (later : List Instruction) :
      shown style level (.indent :: later) = shown style (level + 1) later := by
    rw [shown, follow_cons, toList_text_follow]
    simp [write, appended, levelAfter]
  have back : shown style (level + 1) (.dedent :: steps) = shown style level steps := by
    rw [shown, follow_cons, toList_text_follow]
    simp [write, appended, levelAfter]
  rw [whole, deeper, shown_append flat, back]

/-- A page that follows instructions that change no depth gets their text and is otherwise as
before. -/
theorem follow_of_isFlat {steps : List Instruction} (flat : IsFlat steps) (page : Page) :
    page.follow steps =
      { page with text := page.text ++ String.ofList (shown page.style page.level steps) } := by
  have style := follow_style page steps
  have level := (Instruction.Writes.flat flat).balanced.levelAfterAll page.level
  rw [← Instruction.level_follow page steps] at level
  have text := text_follow page steps
  generalize page.follow steps = after at style level text
  obtain ⟨_, _, _⟩ := after
  simp only at style level text
  rw [style, level, text]

end Page

end CSource
