import CSource.Item.SourceUnit
import CSource.Proofs.Item.Nesting
import CSource.Proofs.Layout.Entry

/-!
# Entries of items

No item writes text that is no line, so items are written as entries, one list for all styles,
levels and pages (`Item.isWrittenAs_entries`). The list is taken from the items themselves, each
entry with the number of arms of a switch around it, since these indent without a brace
(`Item.placedAll`).
-/

namespace CSource

open Instruction (rowsAt)

/-- A row as an entry, unless it is text as it is. -/
def Page.Row.entry? : Page.Row → Option Page.Entry
  | line depth text => some (.line depth text)
  | raw _ => none
  | blank => some .blank

/-- An entry and the number of arms of a switch around it. -/
structure Placed where
  /-- The number of arms. -/
  arms : Nat
  /-- The entry. -/
  entry : Page.Entry
deriving DecidableEq, Repr

/-- The entries of rows in a number of arms. -/
def Placed.ofRows (arms : Nat) (rows : List Page.Row) : List Placed :=
  (rows.filterMap Page.Row.entry?).map fun entry => ⟨arms, entry⟩

/-- Entries are the same in any number of arms. -/
theorem Placed.map_entry_ofRows (arms : Nat) (rows : List Page.Row) :
    (ofRows arms rows).map entry = rows.filterMap Page.Row.entry? := by
  simp [ofRows, Function.comp_def]

/-- Rows none of which is text as it is are the rows of their entries. -/
theorem Page.Row.map_row_filterMap {rows : List Page.Row} (rawless : ∀ text, .raw text ∉ rows) :
    (rows.filterMap Page.Row.entry?).map Page.Entry.row = rows := by
  induction rows with
  | nil => rfl
  | cons row rows ih =>
    have others := ih fun text mem => rawless text (List.mem_cons_of_mem _ mem)
    cases row with
    | line depth text => exact congrArg (.line depth text :: ·) others
    | blank => exact congrArg (.blank :: ·) others
    | raw text => exact absurd List.mem_cons_self (rawless text)

mutual

/-- The entries of an item at a depth and in a number of arms. -/
def Item.placed (arms depth : Nat) : Item → List Placed
  | .function function => function.placed arms depth
  | .block block => block.placed arms depth
  | .arm arm => arm.placed arms depth
  | .guard guard => guard.placed arms depth
  | item => Placed.ofRows arms (item.rows depth)

/-- The entries of a function, whose body stands one level deeper. -/
def Function.placed (arms depth : Nat) : Function → List Placed
  | ⟨comments, prototype, body⟩ =>
    Placed.ofRows arms (rowsAt depth (instructions comments ++ instructions prototype.comments ++
        [Block.opening prototype.text])) ++
      Item.placedAll arms (depth + 1) body ++ Placed.ofRows arms (rowsAt depth [Block.closing none])

/-- The entries of a block, whose body stands one level deeper. -/
def Block.placed (arms depth : Nat) : Block → List Placed
  | ⟨comments, head, body, tail⟩ =>
    Placed.ofRows arms (rowsAt depth (instructions comments ++ [Block.opening head])) ++
      Item.placedAll arms (depth + 1) body ++ Placed.ofRows arms (rowsAt depth [Block.closing tail])

/-- The entries of an arm, whose body stands one level deeper and in one arm more. -/
def SwitchArm.placed (arms depth : Nat) : SwitchArm → List Placed
  | ⟨label, body⟩ =>
    Placed.ofRows arms (rowsAt depth [SwitchArm.labelLine label]) ++
      Item.placedAll (arms + 1) (depth + 1) body

/-- The entries of a guarded part, whose body stands no deeper. -/
def Guard.placed (arms depth : Nat) : Guard → List Placed
  | ⟨name, body⟩ =>
    Placed.ofRows arms (rowsAt depth [.line ("#ifndef " ++ name), .line ("#define " ++ name)]) ++
      Item.placedAll arms depth body ++ Placed.ofRows arms (rowsAt depth [.line "#endif"])

/-- The entries of items in order. -/
def Item.placedAll (arms depth : Nat) : List Item → List Placed
  | [] => []
  | item :: items => item.placed arms depth ++ Item.placedAll arms depth items

end

/-- The entries of items are those of their rows. -/
theorem Item.map_entry_placedAll (arms depth : Nat) (items : List Item) :
    (Item.placedAll arms depth items).map Placed.entry =
      (Item.rowsAll depth items).filterMap Page.Row.entry? := by
  induction items using Item.bodies_induction generalizing arms depth with
  | nil => rfl
  | leaf item items bodiless rest =>
    have first : (item.placed arms depth).map Placed.entry =
        (item.rows depth).filterMap Page.Row.entry? := by
      cases item with
      | function | block | arm | guard => simp [Item.body?] at bodiless
      | _ => exact Placed.map_entry_ofRows arms _
    rw [Item.placedAll, Item.rowsAll, List.map_append, List.filterMap_append, first, rest]
  | body item items inner held within rest =>
    have first : (item.placed arms depth).map Placed.entry =
        (item.rows depth).filterMap Page.Row.entry? := by
      cases item with
      | function item =>
        obtain ⟨comments, prototype, body⟩ := item
        obtain rfl : body = inner := Option.some.inj held
        simp only [Item.placed, Function.placed, Item.rows, Function.rows, List.map_append,
          List.filterMap_append, Placed.map_entry_ofRows, within]
      | block item =>
        obtain ⟨comments, head, body, tail⟩ := item
        obtain rfl : body = inner := Option.some.inj held
        simp only [Item.placed, Block.placed, Item.rows, Block.rows, List.map_append,
          List.filterMap_append, Placed.map_entry_ofRows, within]
      | arm item =>
        obtain ⟨label, body⟩ := item
        obtain rfl : body = inner := Option.some.inj held
        simp only [Item.placed, SwitchArm.placed, Item.rows, SwitchArm.rows, List.map_append,
          List.filterMap_append, Placed.map_entry_ofRows, within]
      | guard item =>
        obtain ⟨name, body⟩ := item
        obtain rfl : body = inner := Option.some.inj held
        simp only [Item.placed, Guard.placed, Item.rows, Guard.rows, List.map_append,
          List.filterMap_append, Placed.map_entry_ofRows, within]
      | _ => simp [Item.body?] at held
    rw [Item.placedAll, Item.rowsAll, List.map_append, List.filterMap_append, first, rest]

/-- Only an instruction that writes text as it is leaves that as a row. -/
theorem Instruction.raw_mem_rowsAt {depth : Nat} {steps : List Instruction} {text : String} :
    .raw text ∈ rowsAt depth steps ↔ .raw text ∈ steps := by
  rw [rowsAt, List.mem_filterMap]
  constructor
  · rintro ⟨step, mem, shown⟩
    cases step with
    | raw other =>
      obtain rfl := Page.Row.raw.inj (Option.some.inj shown)
      exact mem
    | line | blank | indent | dedent => simp [row?] at shown
  · intro mem
    exact ⟨_, mem, rfl⟩

/-- Comments write no text as it is. -/
theorem raw_not_mem_comments (comments : Comments) (text : String) :
    .raw text ∉ instructions comments := by
  obtain ⟨lines⟩ := comments
  match lines with
  | [] | [_] | _ :: _ :: _ => simp [instructions]

/-- Declarations write no text as it is. -/
theorem raw_not_mem_declarations (declarations : List Declaration) (text : String) :
    .raw text ∉ instructions declarations := by
  induction declarations with
  | nil => exact List.not_mem_nil
  | cons declaration declarations ih =>
    have own : .raw text ∉ instructions declaration := by
      have comments := raw_not_mem_comments declaration.comments text
      simpa [instructions] using comments
    rw [instructions_cons, List.mem_append, not_or]
    exact ⟨own, ih⟩

/-- Code writes no text as it is. -/
theorem raw_not_mem_codeLines (code text : String) : .raw text ∉ Item.codeLines code := by
  unfold Item.codeLines
  split
  · simp
  · intro mem
    obtain ⟨line, _, same⟩ := List.mem_map.1 mem
    unfold Item.codeLine at same
    split at same <;> contradiction

open Instruction (raw_mem_rowsAt)

/-- Items leave no text as it is. -/
theorem Item.raw_not_mem_rowsAll (depth : Nat) (items : List Item) (text : String) :
    .raw text ∉ Item.rowsAll depth items := by
  have remarks (comments : Comments) : .raw text ∉ instructions comments :=
    raw_not_mem_comments comments text
  have remarked (comments : Comments) (line : String) :
      .raw text ∉ instructions comments ++ [.line line] := by simp [remarks]
  induction items using Item.bodies_induction generalizing depth with
  | nil => exact List.not_mem_nil
  | leaf item items bodiless rest =>
    rw [Item.rowsAll, List.mem_append, not_or]
    refine ⟨?_, rest depth⟩
    cases item with
    | function | block | arm | guard => simp [Item.body?] at bodiless
    | raw code => exact mt raw_mem_rowsAt.1 (raw_not_mem_codeLines code text)
    | typedef typedef =>
      obtain ⟨comments, type, name⟩ := typedef
      have front := remarks comments
      cases type with
      | struct body =>
        have members := raw_not_mem_declarations body.fields text
        simp [Item.rows, Typedef.rows, raw_mem_rowsAt, front, members]
      | _ => simp [Item.rows, Typedef.rows, raw_mem_rowsAt, front]
    | enumeration enumeration =>
      simp [Item.rows, Enumeration.rows, raw_mem_rowsAt, remarks]
    | comment comments => exact mt raw_mem_rowsAt.1 (remarks comments)
    | declaration declaration => exact mt raw_mem_rowsAt.1 (remarked declaration.comments _)
    | prototype prototype => exact mt raw_mem_rowsAt.1 (remarked prototype.comments _)
    | inclusion inclusion => exact mt raw_mem_rowsAt.1 (remarked inclusion.comments _)
    | returns value =>
      cases value <;> simp [Item.rows, raw_mem_rowsAt, instructions, Item.layout, Item.returnLine]
    | blank | evaluate | throws | breaks | continues | type | define =>
      simp [Item.rows, raw_mem_rowsAt, instructions, Item.layout]
  | body item items inner held within rest =>
    rw [Item.rowsAll, List.mem_append, not_or]
    refine ⟨?_, rest depth⟩
    cases item with
    | function item =>
      obtain ⟨comments, prototype, body⟩ := item
      obtain rfl : body = inner := Option.some.inj held
      simp [Item.rows, Function.rows, raw_mem_rowsAt, remarks, within, Block.opening, Block.closing]
    | block item =>
      obtain ⟨comments, head, body, tail⟩ := item
      obtain rfl : body = inner := Option.some.inj held
      cases tail <;>
        simp [Item.rows, Block.rows, raw_mem_rowsAt, remarks, within, Block.opening, Block.closing]
    | arm item =>
      obtain ⟨label, body⟩ := item
      obtain rfl : body = inner := Option.some.inj held
      cases label <;>
        simp [Item.rows, SwitchArm.rows, raw_mem_rowsAt, within, SwitchArm.labelLine]
    | guard item =>
      obtain ⟨name, body⟩ := item
      obtain rfl : body = inner := Option.some.inj held
      simp [Item.rows, Guard.rows, raw_mem_rowsAt, within]
    | _ => simp [Item.body?] at held

/-- The entries of some items, each line at its depth from where the items begin. -/
def Item.entries (items : List Item) : List Page.Entry :=
  (Item.placedAll 0 0 items).map Placed.entry

/-- The rows of items are their entries. -/
theorem Item.rowsAll_eq_map_entries (items : List Item) :
    Item.rowsAll 0 items = (Item.entries items).map Page.Entry.row := by
  have rawless := Item.raw_not_mem_rowsAll 0 items
  rw [Item.entries, Item.map_entry_placedAll, Page.Row.map_row_filterMap rawless]

/-- Items are written as their entries. -/
theorem Item.isWrittenAs_entries (items : List Item) : IsWrittenAs items (Item.entries items) :=
  .of_record ((Item.writesAll items).record (Item.rowsAll_eq_map_entries items))

/-- The entries of comments. -/
def Comments.entries (comments : Comments) : List Page.Entry :=
  (rowsAt 0 (instructions comments)).filterMap Page.Row.entry?

/-- A source unit is written as the entries of its comments and of its items. -/
theorem SourceUnit.isWrittenAs_entries (unit : SourceUnit) :
    IsWrittenAs unit (unit.comments.entries ++ Item.entries unit.items) := by
  have writes := (Instruction.Writes.flat (isFlat_comments unit.comments)).append
    (Item.writesAll unit.items)
  have comments : rowsAt 0 (instructions unit.comments) =
      unit.comments.entries.map Page.Entry.row := by
    have rawless (text : String) : .raw text ∉ rowsAt 0 (instructions unit.comments) :=
      mt raw_mem_rowsAt.1 (raw_not_mem_comments unit.comments text)
    exact (Page.Row.map_row_filterMap rawless).symm
  have shown : rowsAt 0 (instructions unit.comments) ++ Item.rowsAll 0 unit.items =
      (unit.comments.entries ++ Item.entries unit.items).map Page.Entry.row := by
    rw [List.map_append, comments, Item.rowsAll_eq_map_entries]
  exact .of_record (writes.record shown)

/-- Every source unit and every list of items is written as one list of entries, the one that its
instructions are recorded as: whatever its style, level and text, a page gets the text of the
entries and is otherwise as before. So two styles differ in the margins only, and two lists in a
row are written as one after the other. -/
theorem emit_entries :
    (∀ unit : SourceUnit, ∃ entries, IsWrittenAs unit entries ∧
      ∀ style, renderWith style unit = Page.Entry.texts style 0 entries) ∧
    (∀ items : List Item, ∃ entries, IsWrittenAs items entries) ∧
    ∀ front back : List Item, ∃ first second, IsWrittenAs front first ∧ IsWrittenAs back second ∧
      ∀ page : Page, page.emit (front ++ back) = { page with
        text := page.text ++ Page.Entry.texts page.style page.level first ++
          Page.Entry.texts page.style page.level second } := by
  refine ⟨fun unit => ⟨_, unit.isWrittenAs_entries, fun style => ?_⟩,
    fun items => ⟨_, Item.isWrittenAs_entries items⟩,
    fun front back => ⟨_, _, Item.isWrittenAs_entries front, Item.isWrittenAs_entries back, ?_⟩⟩
  · exact unit.isWrittenAs_entries.renderWith_eq style
  · intro page
    have both : page.emit (front ++ back) = (page.emit front).emit back := by
      rw [Page.emit, instructions_append, Page.follow_append]
      rfl
    rw [both, (Item.isWrittenAs_entries back).emitted, (Item.isWrittenAs_entries front).emitted]

end CSource
