import CSource.Layout.Instruction

/-!
# Comments

Most things can carry comment lines that are written before them. One line is written as a line
comment, several as a block comment with a row for each, and none leaves nothing behind.
-/

namespace CSource

/-- Comment lines in order. -/
structure Comments where
  /-- The lines. -/
  lines : List String
deriving DecidableEq, Repr

namespace Comments

/-- No comment. -/
def empty : Comments := ⟨[]⟩

/-- The comment with one more line. -/
def push (comments : Comments) (line : String) : Comments := ⟨comments.lines ++ [line]⟩

/-- Whether there is no line. -/
def isEmpty (comments : Comments) : Bool := comments.lines.isEmpty

/-- The number of lines. -/
def length (comments : Comments) : Nat := comments.lines.length

end Comments

instance : Render Comments where
  instructions comments :=
    match comments.lines with
    | [] => []
    | [line] => [.line ("// " ++ line)]
    | lines => .line "/*" :: lines.map (fun line => .line (" * " ++ line)) ++ [.line " */"]

/-- Things that carry comments, which can be replaced without a change to the rest. -/
class Commented (α : Type) where
  /-- The comments of a thing. -/
  comments : α → Comments
  /-- The thing with other comments. -/
  withComments : α → Comments → α

/-- A thing with one more comment line. -/
def addComment {α : Type} [Commented α] (thing : α) (line : String) : α :=
  Commented.withComments thing ((Commented.comments thing).push line)

end CSource
