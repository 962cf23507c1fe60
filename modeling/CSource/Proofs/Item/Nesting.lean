import CSource.Item.Layout
import CSource.Proofs.Layout.Nesting

/-!
# Nesting of items

Every line of an item stands at a depth that the item alone decides: one for each body of a
function, block, arm, enumeration or struct around it, and none for a guard (`Item.rows`). The
instructions that write items are nested and leave exactly these rows, so every item begins where
the one before it began.
-/

namespace CSource

open Instruction (rowsAt IsFlat Writes)

/-- The body of an item that holds further items. -/
def Item.body? : Item → Option (List Item)
  | .function item => some item.body
  | .block item => some item.body
  | .arm item => some item.body
  | .guard item => some item.body
  | _ => none

/-- What holds of no items, and of items when it holds of those after the first and of its body,
holds of all items. -/
@[elab_as_elim]
theorem Item.bodies_induction {motive : List Item → Prop} (nil : motive [])
    (leaf : ∀ item items, item.body? = none → motive items → motive (item :: items))
    (body : ∀ item items inner, item.body? = some inner → motive inner → motive items →
      motive (item :: items)) : ∀ items : List Item, motive items
  | [] => nil
  | .function ⟨_, _, inner⟩ :: items => body _ items inner rfl
      (bodies_induction nil leaf body inner) (bodies_induction nil leaf body items)
  | .block ⟨_, _, inner, _⟩ :: items => body _ items inner rfl
      (bodies_induction nil leaf body inner) (bodies_induction nil leaf body items)
  | .arm ⟨_, inner⟩ :: items => body _ items inner rfl
      (bodies_induction nil leaf body inner) (bodies_induction nil leaf body items)
  | .guard ⟨_, inner⟩ :: items => body _ items inner rfl
      (bodies_induction nil leaf body inner) (bodies_induction nil leaf body items)
  | .blank :: items | .raw _ :: items | .comment _ :: items | .evaluate _ :: items
  | .returns _ :: items | .throws _ :: items | .breaks :: items | .continues :: items
  | .type _ :: items | .declaration _ :: items | .typedef _ :: items | .prototype _ :: items
  | .enumeration _ :: items | .inclusion _ :: items | .define _ :: items =>
    leaf _ items rfl (bodies_induction nil leaf body items)

/-- The rows of an enumeration, whose values stand one level deeper. -/
def Enumeration.rows (depth : Nat) (enumeration : Enumeration) : List Page.Row :=
  rowsAt depth (instructions enumeration.comments) ++
    .line depth ("enum " ++ enumeration.name ++ " \x7b") ::
      (Enumeration.entries 0 enumeration.values).map (.line (depth + 1)) ++ [.line depth "\x7d;"]

/-- The rows of a type name. The members of a struct stand one level deeper. -/
def Typedef.rows (depth : Nat) (typedef : Typedef) : List Page.Row :=
  rowsAt depth (instructions typedef.comments) ++
    match typedef.type with
    | .struct body =>
      .line depth ("typedef " ++ StructBody.keyword body.tag ++ " \x7b") ::
        rowsAt (depth + 1) (instructions body.fields) ++
          [.line depth ("\x7d " ++ typedef.name ++ ";")]
    | type => [.line depth ("typedef " ++ type.declare typedef.name ++ ";")]

mutual

/-- The rows of an item at a depth. -/
def Item.rows (depth : Nat) : Item → List Page.Row
  | .function function => function.rows depth
  | .block block => block.rows depth
  | .arm arm => arm.rows depth
  | .guard guard => guard.rows depth
  | .enumeration enumeration => enumeration.rows depth
  | .typedef typedef => typedef.rows depth
  | item => rowsAt depth (instructions item)

/-- The rows of a function, whose body stands one level deeper. -/
def Function.rows (depth : Nat) : Function → List Page.Row
  | ⟨comments, prototype, body⟩ =>
    rowsAt depth (instructions comments ++ instructions prototype.comments ++
        [Block.opening prototype.text]) ++
      Item.rowsAll (depth + 1) body ++ rowsAt depth [Block.closing none]

/-- The rows of a block, whose body stands one level deeper. -/
def Block.rows (depth : Nat) : Block → List Page.Row
  | ⟨comments, head, body, tail⟩ =>
    rowsAt depth (instructions comments ++ [Block.opening head]) ++
      Item.rowsAll (depth + 1) body ++ rowsAt depth [Block.closing tail]

/-- The rows of an arm, whose body stands one level deeper. -/
def SwitchArm.rows (depth : Nat) : SwitchArm → List Page.Row
  | ⟨label, body⟩ => rowsAt depth [SwitchArm.labelLine label] ++ Item.rowsAll (depth + 1) body

/-- The rows of a guarded part, whose body stands no deeper. -/
def Guard.rows (depth : Nat) : Guard → List Page.Row
  | ⟨name, body⟩ =>
    rowsAt depth [.line ("#ifndef " ++ name), .line ("#define " ++ name)] ++
      Item.rowsAll depth body ++ rowsAt depth [.line "#endif"]

/-- The rows of items in order. -/
def Item.rowsAll (depth : Nat) : List Item → List Page.Row
  | [] => []
  | item :: items => item.rows depth ++ Item.rowsAll depth items

end

namespace Instruction

/-- Instructions in a row change no depth where none of them does. -/
theorem IsFlat.append {left right : List Instruction} (first : IsFlat left)
    (second : IsFlat right) : IsFlat (left ++ right) := by
  intro step mem
  rcases List.mem_append.1 mem with mem | mem
  · exact first step mem
  · exact second step mem

/-- Lines change no depth. -/
theorem isFlat_lines (texts : List String) : IsFlat (texts.map line) := by
  intro step mem
  obtain ⟨text, _, rfl⟩ := List.mem_map.1 mem
  exact ⟨Instruction.noConfusion, Instruction.noConfusion⟩

/-- A line changes no depth. -/
theorem isFlat_line (text : String) : IsFlat [line text] := isFlat_lines [text]

end Instruction

open Instruction (isFlat_lines isFlat_line)

/-- Comments stand at one depth. -/
theorem isFlat_comments (comments : Comments) : IsFlat (instructions comments) := by
  obtain ⟨lines⟩ := comments
  match lines with
  | [] => exact List.forall_mem_nil _
  | [text] => exact isFlat_line ("// " ++ text)
  | first :: second :: others =>
    have rows := isFlat_lines ((first :: second :: others).map (" * " ++ ·))
    rw [List.map_map] at rows
    exact (isFlat_line "/*").append (rows.append (isFlat_line " */"))

/-- Declarations stand at one depth. -/
theorem isFlat_declarations (declarations : List Declaration) :
    IsFlat (instructions declarations) := by
  induction declarations with
  | nil => exact List.forall_mem_nil _
  | cons declaration declarations ih =>
    rw [instructions_cons]
    exact ((isFlat_comments declaration.comments).append (isFlat_line _)).append ih

/-- The lines of code stand at one depth. -/
theorem isFlat_codeLines (code : String) : IsFlat (Item.codeLines code) := by
  unfold Item.codeLines
  split
  · decide
  · intro step mem
    obtain ⟨line, _, rfl⟩ := List.mem_map.1 mem
    unfold Item.codeLine
    split <;> exact ⟨Instruction.noConfusion, Instruction.noConfusion⟩

/-- The rows of an enumeration are its values between a line that opens a brace and one that closes
it. -/
theorem Enumeration.rows_eq (depth : Nat) (enumeration : Enumeration) :
    enumeration.rows depth =
      rowsAt depth (instructions enumeration.comments ++
          [.line ("enum " ++ enumeration.name ++ " \x7b")]) ++
        rowsAt (depth + 1) ((Enumeration.entries 0 enumeration.values).map .line) ++
        rowsAt depth [.line "\x7d;"] := by
  simp [rows, rowsAt, Instruction.row?, List.filterMap_map, Function.comp_def]

/-- The instructions of an enumeration leave its rows. -/
theorem Enumeration.writes (enumeration : Enumeration) :
    Writes (instructions enumeration) fun depth => enumeration.rows depth := by
  have front := (isFlat_comments enumeration.comments).append
    (isFlat_line ("enum " ++ enumeration.name ++ " \x7b"))
  have values := Writes.flat (isFlat_lines (Enumeration.entries 0 enumeration.values))
  have all := Writes.between front values (isFlat_line "\x7d;")
  simpa [instructions, Enumeration.rows_eq] using all

/-- The instructions of a type name leave its rows. -/
theorem Typedef.writes (typedef : Typedef) :
    Writes (instructions typedef) fun depth => typedef.rows depth := by
  obtain ⟨comments, type, name⟩ := typedef
  have before := Writes.flat (isFlat_comments comments)
  cases type with
  | struct body =>
    have members := Writes.flat (isFlat_declarations body.fields)
    have front := isFlat_line ("typedef " ++ StructBody.keyword body.tag ++ " \x7b")
    have braced := Writes.between front members (isFlat_line ("\x7d " ++ name ++ ";"))
    exact before.append braced
  | _ => exact before.append (.flat (isFlat_line _))

/-- The instructions of items leave their rows. -/
theorem Item.writesAll (items : List Item) :
    Writes (instructions items) fun depth => Item.rowsAll depth items := by
  rw [← Item.layoutAll_eq]
  induction items using Item.bodies_induction with
  | nil => exact .flat (by simp [IsFlat, Item.layoutAll])
  | leaf item items bodiless rest =>
    refine Writes.append ?_ rest
    cases item with
    | enumeration enumeration => exact enumeration.writes
    | typedef typedef => exact typedef.writes
    | raw code => exact .flat (isFlat_codeLines code)
    | comment comments => exact .flat (isFlat_comments comments)
    | declaration declaration =>
      exact .flat ((isFlat_comments declaration.comments).append (isFlat_line _))
    | prototype prototype =>
      exact .flat ((isFlat_comments prototype.comments).append (isFlat_line _))
    | inclusion inclusion =>
      exact .flat ((isFlat_comments inclusion.comments).append (isFlat_line _))
    | blank => exact .flat (by decide)
    | evaluate | throws | breaks | continues | type | define => exact .flat (isFlat_line _)
    | returns value => cases value <;> exact .flat (isFlat_line _)
    | function | block | arm | guard => simp [Item.body?] at bodiless
  | body item items inner held within rest =>
    refine Writes.append ?_ rest
    cases item with
    | function item =>
      obtain ⟨comments, prototype, body⟩ := item
      obtain rfl : body = inner := Option.some.inj held
      have front : IsFlat (instructions comments ++ instructions prototype.comments ++
          [Block.opening prototype.text]) :=
        ((isFlat_comments comments).append (isFlat_comments prototype.comments)).append
          (isFlat_line _)
      have parts : (Item.function ⟨comments, prototype, body⟩).layout =
          instructions comments ++ instructions prototype.comments ++
              [Block.opening prototype.text] ++
            Instruction.nested (Item.layoutAll body) ++ [Block.closing none] := by
        simp [Item.layout, Function.layout]
      rw [parts]
      exact .between front within (isFlat_line "\x7d")
    | block item =>
      obtain ⟨comments, head, body, tail⟩ := item
      obtain rfl : body = inner := Option.some.inj held
      have front : IsFlat (instructions comments ++ [Block.opening head]) :=
        (isFlat_comments comments).append (isFlat_line _)
      have back : IsFlat [Block.closing tail] := by cases tail <;> exact isFlat_line _
      have parts : (Item.block ⟨comments, head, body, tail⟩).layout =
          instructions comments ++ [Block.opening head] ++
            Instruction.nested (Item.layoutAll body) ++ [Block.closing tail] := by
        simp [Item.layout, Block.layout]
      rw [parts]
      exact .between front within back
    | arm item =>
      obtain ⟨label, body⟩ := item
      obtain rfl : body = inner := Option.some.inj held
      have front : IsFlat [SwitchArm.labelLine label] := by cases label <;> exact isFlat_line _
      exact (Writes.flat front).append within.nested
    | guard item =>
      obtain ⟨name, body⟩ := item
      obtain rfl : body = inner := Option.some.inj held
      have front := (isFlat_line ("#ifndef " ++ name)).append (isFlat_line ("#define " ++ name))
      exact ((Writes.flat front).append within).append (.flat (isFlat_line "#endif"))
    | _ => simp [Item.body?] at held

/-- The rows of items are as much deeper as the depth at which they begin. -/
theorem Item.rowsAll_add (level depth : Nat) (items : List Item) :
    Item.rowsAll (level + depth) items = (Item.rowsAll depth items).map (.deeper level) := by
  induction items using Item.bodies_induction generalizing depth with
  | nil => rfl
  | leaf item items bodiless rest =>
    have first : item.rows (level + depth) = (item.rows depth).map (.deeper level) := by
      cases item with
      | enumeration enumeration =>
        simp [Item.rows, Enumeration.rows, Instruction.rowsAt_add level, Page.Row.deeper,
          Nat.add_assoc]
      | typedef typedef =>
        obtain ⟨comments, type, name⟩ := typedef
        cases type <;> simp [Item.rows, Typedef.rows, Instruction.rowsAt_add level,
          Page.Row.deeper, Nat.add_assoc]
      | function | block | arm | guard => simp [Item.body?] at bodiless
      | _ => exact Instruction.rowsAt_add level depth _
    rw [Item.rowsAll, Item.rowsAll, first, rest, List.map_append]
  | body item items inner held within rest =>
    have deeper := within (depth + 1)
    have same := within depth
    have first : item.rows (level + depth) = (item.rows depth).map (.deeper level) := by
      cases item with
      | function item =>
        obtain ⟨comments, prototype, body⟩ := item
        obtain rfl : body = inner := Option.some.inj held
        simp only [Item.rows, Function.rows, Instruction.rowsAt_add level, Nat.add_assoc, deeper,
          List.map_append]
      | block item =>
        obtain ⟨comments, head, body, tail⟩ := item
        obtain rfl : body = inner := Option.some.inj held
        simp only [Item.rows, Block.rows, Instruction.rowsAt_add level, Nat.add_assoc, deeper,
          List.map_append]
      | arm item =>
        obtain ⟨label, body⟩ := item
        obtain rfl : body = inner := Option.some.inj held
        simp only [Item.rows, SwitchArm.rows, Instruction.rowsAt_add level, Nat.add_assoc, deeper,
          List.map_append]
      | guard item =>
        obtain ⟨name, body⟩ := item
        obtain rfl : body = inner := Option.some.inj held
        simp only [Item.rows, Guard.rows, Instruction.rowsAt_add level, same, List.map_append]
      | _ => simp [Item.body?] at held
    rw [Item.rowsAll, Item.rowsAll, first, rest, List.map_append]

/-- The instructions that write items are nested, and every line stands at the depth where they
begin and one level more for each body around it. So a page ends at the level where it began, and
it is never asked to go further out than that. -/
theorem Item.instructions_balanced (items : List Item) :
    (instructions items).count .indent = (instructions items).count .dedent ∧
      (∀ before, before <+: instructions items →
        before.count .dedent ≤ before.count .indent) ∧
      (∀ level, Instruction.written level (instructions items) =
        (Item.rowsAll 0 items).map (.deeper level)) ∧
      ∀ page : Page, (page.emit items).level = page.level ∧
        ∀ before after, instructions items = before ++ .dedent :: after →
          page.level < (page.follow before).level := by
  have writes := Item.writesAll items
  have balanced := writes.balanced
  refine ⟨balanced.whole, balanced.starts, fun level => ?_, fun page => ⟨?_, ?_⟩⟩
  · rw [writes.written, ← Item.rowsAll_add, Nat.add_zero]
  · rw [Page.emit, Instruction.level_follow, balanced.levelAfterAll]
  · intro before after parts
    rw [Instruction.level_follow]
    exact balanced.lt_levelAfterAll parts page.level

end CSource
