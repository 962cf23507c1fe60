import CSource.Item.Basic
import CSource.Path.Guard

/-!
# Building items

The control-flow statements of C as blocks, and further items at the end of a body.
-/

namespace CSource

/-- A comment of one line as an item. -/
def Item.commentLine (text : String) : Item := .comment ⟨[text]⟩

namespace Block

/-- A block after a head. -/
def ofHead (head : String) : Block := { head }

/-- A condition. -/
def conditional (condition : Expr) : Block := ofHead ("if(" ++ condition.code ++ ")")

/-- A condition for when those before it fail. -/
def otherwiseIf (condition : Expr) : Block := ofHead ("else if(" ++ condition.code ++ ")")

/-- The alternative for when all conditions fail. -/
def otherwise : Block := ofHead "else"

/-- A loop that tests before each round. -/
def whileLoop (condition : Expr) : Block := ofHead ("while(" ++ condition.code ++ ")")

/-- A loop that tests after each round. -/
def doWhile (condition : Expr) : Block :=
  { head := "do", tail := some ("while(" ++ condition.code ++ ");") }

/-- A loop with a start, a test and a step. -/
def loop (start condition step : Expr) : Block :=
  ofHead ("for(" ++ start.code ++ "; " ++ condition.code ++ "; " ++ step.code ++ ")")

/-- A loop without a test. -/
def forever : Block := ofHead "for(;;)"

/-- A choice by a value among arms. -/
def switch (value : Expr) : Block := ofHead ("switch(" ++ value.code ++ ")")

/-- A scope of its own. -/
def scope : Block := ofHead ""

instance : Commented Block where
  comments := Block.comments
  withComments block comments := { block with comments }

/-- A block with more items at the end of its body. -/
def addItems (block : Block) (items : List Item) : Block :=
  { block with body := block.body ++ items }

end Block

namespace Function

instance : Commented Function where
  comments := Function.comments
  withComments function comments := { function with comments }

/-- A function with more items at the end of its body. -/
def addItems (function : Function) (items : List Item) : Function :=
  { function with body := function.body ++ items }

end Function

namespace SwitchArm

/-- The arm for a value. -/
def ofValue (value : Expr) : SwitchArm := { label := some value }

/-- The arm for all other values. -/
def otherwise : SwitchArm := { label := none }

/-- Whether an arm is for all other values. -/
def isDefault (arm : SwitchArm) : Bool := arm.label.isNone

/-- An arm with more items at the end of its body. -/
def addItems (arm : SwitchArm) (items : List Item) : SwitchArm :=
  { arm with body := arm.body ++ items }

end SwitchArm

namespace Guard

/-- The guard of a header, named after its file. -/
def ofHeader (path : Path) : Guard := { name := path.guardName }

/-- A guarded part with more items at its end. -/
def addItems (guard : Guard) (items : List Item) : Guard :=
  { guard with body := guard.body ++ items }

end Guard
end CSource
