import CSource.Layout.Indent
import CSource.Layout.Instruction

/-!
# Pages

A page follows layout instructions. It holds the text written so far and the current depth; its
style never changes. Text is only ever appended, and going one level less deep at the outermost
level does nothing. Following a list and then another is following both in a row
(`follow_append`).
-/

namespace CSource

/-- A text being written in one indentation style. -/
structure Page where
  /-- How each level of depth is written. -/
  style : Indent
  /-- The current depth. -/
  level : Nat
  /-- The text written so far. -/
  text : String
deriving DecidableEq

namespace Page

/-- A page with nothing on it. -/
def empty (style : Indent) : Page := ⟨style, 0, ""⟩

/-- The text that an instruction appends at a depth. -/
def appended (style : Indent) (level : Nat) : Instruction → String
  | .line text => style.margin level ++ text ++ "\n"
  | .raw text => text
  | .blank => "\n"
  | .indent => ""
  | .dedent => ""

/-- The depth after an instruction. -/
def levelAfter (level : Nat) : Instruction → Nat
  | .indent => level + 1
  | .dedent => level - 1
  | _ => level

/-- The page after one instruction. -/
def write (page : Page) (instruction : Instruction) : Page where
  style := page.style
  level := levelAfter page.level instruction
  text := page.text ++ appended page.style page.level instruction

/-- The page after a list of instructions. -/
def follow (page : Page) (steps : List Instruction) : Page :=
  steps.foldl write page

/-- The page after the instructions of a thing. -/
def emit {α : Type} [Render α] (page : Page) (thing : α) : Page :=
  page.follow (instructions thing)

/-- Following no instruction changes nothing. -/
@[simp] theorem follow_nil (page : Page) : page.follow [] = page := rfl

/-- The first instruction is followed first. -/
@[simp] theorem follow_cons (page : Page) (step : Instruction) (steps : List Instruction) :
    page.follow (step :: steps) = (page.write step).follow steps := rfl

/-- Two lists in a row are followed one after the other. -/
theorem follow_append (page : Page) (left right : List Instruction) :
    page.follow (left ++ right) = (page.follow left).follow right := by
  simp [follow]

end Page

/-- The text of a thing on a page of its own. -/
def renderWith {α : Type} [Render α] (style : Indent) (thing : α) : String :=
  ((Page.empty style).emit thing).text

/-- The text of a thing in the standard style. -/
def render {α : Type} [Render α] (thing : α) : String :=
  renderWith default thing

end CSource
