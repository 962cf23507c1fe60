/-!
# Layout instructions

What is rendered is a list of instructions, the same whatever interprets it: a page of text
follows them, and a caller that wants the calls themselves reads the list. Instructions of a
list of things are the instructions of each in order (`instructions_append`).
-/

namespace CSource

/-- One step in writing a text whose lines have a depth. -/
inductive Instruction where
  /-- A line at the current depth. -/
  | line (text : String)
  /-- Text as it is, without margin or newline. -/
  | raw (text : String)
  /-- An empty line, without margin. -/
  | blank
  /-- One level deeper from here on. -/
  | indent
  /-- One level less deep from here on. -/
  | dedent
deriving DecidableEq, Repr

/-- Things that are written by layout instructions. -/
class Render (α : Type) where
  /-- The instructions that write a thing. -/
  instructions : α → List Instruction

export Render (instructions)

/-- A list is written element by element. -/
instance {α : Type} [Render α] : Render (List α) where
  instructions things := things.flatMap instructions

/-- Nothing is written for an empty list. -/
@[simp] theorem instructions_nil {α : Type} [Render α] :
    instructions ([] : List α) = [] := rfl

/-- The first element is written first. -/
@[simp] theorem instructions_cons {α : Type} [Render α] (thing : α) (things : List α) :
    instructions (thing :: things) = instructions thing ++ instructions things := rfl

/-- Two lists in a row are written one after the other. -/
@[simp] theorem instructions_append {α : Type} [Render α] (left right : List α) :
    instructions (left ++ right) = instructions left ++ instructions right := by
  simp [instructions]

namespace Instruction

/-- Instructions one level deeper, with the depth put back after them. -/
def nested (body : List Instruction) : List Instruction :=
  .indent :: (body ++ [.dedent])

end Instruction
end CSource
