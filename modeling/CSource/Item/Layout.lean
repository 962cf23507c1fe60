import CSource.Item.Basic
import CSource.Layout.Page
import CSource.Text.Split

/-!
# Layout of items

Each kind of item is written by its own lines, with its body between them. Bodies of functions,
blocks and arms stand one level deeper; a guarded part stands at the level of its guard. The
layout of a list of items is the layout of each in order (`Item.layoutAll_eq`).
-/

namespace CSource

/-- The line of some code; an empty line has no margin. -/
def Item.codeLine (line : List Char) : Instruction :=
  if line = [] then .blank else .line (String.ofList line)

/-- The lines of some code. Without any code there is one empty line. -/
def Item.codeLines (code : String) : List Instruction :=
  if code = "" then [.blank] else (Text.lines code.toList).map codeLine

/-- The line that opens a braced body. -/
def Block.opening (head : String) : Instruction :=
  .line (if head = "" then "\x7b" else head ++ " \x7b")

/-- The line that closes a braced body. -/
def Block.closing : Option String → Instruction
  | some tail => .line ("\x7d " ++ tail)
  | none => .line "\x7d"

/-- The line that opens an arm of a switch. -/
def SwitchArm.labelLine : Option Expr → Instruction
  | some value => .line ("case " ++ value.code ++ ":")
  | none => .line "default:"

/-- The line that ends a function. -/
def Item.returnLine : Option Expr → Instruction
  | some value => .line ("return " ++ value.code ++ ";")
  | none => .line "return;"

mutual

/-- The instructions that write an item. -/
def Item.layout : Item → List Instruction
  | .blank => [.blank]
  | .raw code => Item.codeLines code
  | .comment comments => instructions comments
  | .evaluate expr => instructions expr
  | .returns value => [Item.returnLine value]
  | .throws value => [.line ("throw " ++ value.code ++ ";")]
  | .breaks => [.line "break;"]
  | .continues => [.line "continue;"]
  | .type type => instructions type
  | .declaration declaration => instructions declaration
  | .typedef typedef => instructions typedef
  | .prototype prototype => instructions prototype
  | .function function => function.layout
  | .block block => block.layout
  | .arm arm => arm.layout
  | .enumeration enumeration => instructions enumeration
  | .inclusion inclusion => instructions inclusion
  | .define definition => instructions definition
  | .guard guard => guard.layout

/-- The instructions that write a function. -/
def Function.layout : Function → List Instruction
  | ⟨comments, prototype, body⟩ =>
    instructions comments ++ instructions prototype.comments ++
      Block.opening prototype.text ::
        Instruction.nested (Item.layoutAll body) ++ [Block.closing none]

/-- The instructions that write a block. -/
def Block.layout : Block → List Instruction
  | ⟨comments, head, body, tail⟩ =>
    instructions comments ++
      Block.opening head :: Instruction.nested (Item.layoutAll body) ++ [Block.closing tail]

/-- The instructions that write an arm of a switch. -/
def SwitchArm.layout : SwitchArm → List Instruction
  | ⟨label, body⟩ => SwitchArm.labelLine label :: Instruction.nested (Item.layoutAll body)

/-- The instructions that write a guarded part. -/
def Guard.layout : Guard → List Instruction
  | ⟨name, body⟩ =>
    .line ("#ifndef " ++ name) :: .line ("#define " ++ name) ::
      Item.layoutAll body ++ [.line "#endif"]

/-- The instructions that write items in order. -/
def Item.layoutAll : List Item → List Instruction
  | [] => []
  | item :: items => item.layout ++ Item.layoutAll items

end

instance : Render Item := ⟨Item.layout⟩
instance : Render Function := ⟨Function.layout⟩
instance : Render Block := ⟨Block.layout⟩
instance : Render SwitchArm := ⟨SwitchArm.layout⟩
instance : Render Guard := ⟨Guard.layout⟩

/-- Items in order are written as a list of things is. -/
theorem Item.layoutAll_eq (items : List Item) : Item.layoutAll items = instructions items := by
  induction items with
  | nil => rfl
  | cons item items ih => rw [Item.layoutAll, ih, instructions_cons]; rfl

end CSource
