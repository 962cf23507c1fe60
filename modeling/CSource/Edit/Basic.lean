import CSource.Literal.Basic

/-!
# Edits

An edit changes one part of a thing: it appends a comment line, appends one child or several, or
sets a value. An edit whose literal is refused leaves the thing as it is, and the edits after it
go on from there. Edits in two lists in a row are made one list after the other (`run_append`).
-/

namespace CSource

/-- One change to a thing. A kind of change that a thing does not know has no content. -/
inductive Edit (Comment Child Value : Type) where
  /-- One more comment line. -/
  | comment (line : Comment)
  /-- One more child. -/
  | add (child : Child)
  /-- More children in order. -/
  | addAll (children : List Child)
  /-- A value, in place of an earlier one. -/
  | set (value : Value)

/-- Things that can be edited, with what their comments, children and value are. -/
class Editable (α : Type) (Comment Child Value : outParam Type) where
  /-- The thing after an edit. -/
  edit : α → Edit Comment Child Value → α

namespace Editable

variable {α Comment Child Value : Type} [Editable α Comment Child Value]

/-- The thing after an edit that may be refused. -/
def step (thing : α) : Except UnsupportedValue (Edit Comment Child Value) → α
  | .ok change => edit thing change
  | .error _ => thing

/-- The thing after some edits. -/
def run (thing : α) (steps : List (Except UnsupportedValue (Edit Comment Child Value))) : α :=
  steps.foldl step thing

/-- The thing after each edit, or the refusal of the edit. -/
def history (thing : α) :
    List (Except UnsupportedValue (Edit Comment Child Value)) → List (Except UnsupportedValue α)
  | [] => []
  | change :: rest =>
    change.map (edit thing) :: history (step thing change) rest

end Editable
end CSource
