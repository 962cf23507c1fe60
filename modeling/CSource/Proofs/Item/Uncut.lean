import CSource.Proofs.Item.Lines

/-!
# Items in uncut lines

Items are linewise when no text that they are built from has a carriage return, and none but the
code that is taken as it is has a newline. Every line that they write is then one line of the text,
and none is empty: empty lines are written as such only (`Item.IsLinewise.uncut`).
-/

namespace CSource

open Text (IsUnbroken IsUncut)

mutual

/-- The texts that an item is built from, other than code that is taken as it is. -/
def Item.prose : Item → List String
  | .raw _ => []
  | .function function => function.prose
  | .block block => block.prose
  | .arm arm => arm.prose
  | .guard guard => guard.prose
  | item => item.supplied

/-- The texts that a function is built from, other than code that is taken as it is. -/
def Function.prose : Function → List String
  | ⟨comments, prototype, body⟩ => comments.lines ++ prototype.supplied ++ Item.proseAll body

/-- The texts that a block is built from, other than code that is taken as it is. -/
def Block.prose : Block → List String
  | ⟨comments, head, body, tail⟩ => comments.lines ++ head :: tail.toList ++ Item.proseAll body

/-- The texts that an arm is built from, other than code that is taken as it is. -/
def SwitchArm.prose : SwitchArm → List String
  | ⟨label, body⟩ => label.toList.map Expr.code ++ Item.proseAll body

/-- The texts that a guarded part is built from, other than code that is taken as it is. -/
def Guard.prose : Guard → List String
  | ⟨name, body⟩ => name :: Item.proseAll body

/-- The texts that items are built from, other than code that is taken as it is. -/
def Item.proseAll : List Item → List String
  | [] => []
  | item :: items => item.prose ++ Item.proseAll items

end

/-- Whether an instruction is not cut: a line that it leaves is one line and not empty. -/
def Instruction.IsUncut : Instruction → Prop
  | line text => Text.IsUncut text
  | raw _ => False
  | blank | indent | dedent => True

/-- Lines that are one line each are not cut. -/
theorem Instruction.uncut_of_leaves {steps : List Instruction}
    (leaves : ∀ step ∈ steps, step.Leaves Text.IsUncut) : ∀ step ∈ steps, step.IsUncut := by
  intro step mem
  have own := leaves step mem
  cases step with
  | line text => exact own
  | blank => trivial
  | raw | indent | dedent => exact own.elim

/-- A line that is one line is not cut. -/
theorem Text.IsUncut.uncut_line {text : String} (uncut : IsUncut text) :
    ∀ step ∈ [Instruction.line text], step.IsUncut := List.forall_mem_singleton.2 uncut

/-- A body of uncut instructions is not cut. -/
theorem Instruction.uncut_nested {body : List Instruction}
    (uncut : ∀ step ∈ body, step.IsUncut) : ∀ step ∈ nested body, step.IsUncut := by
  have last : ∀ step ∈ [Instruction.dedent], step.IsUncut := List.forall_mem_singleton.2 trivial
  exact List.forall_mem_cons.2 ⟨trivial, List.forall_mem_append.2 ⟨uncut, last⟩⟩

/-- A body of uncut instructions between uncut lines is not cut. -/
theorem Instruction.uncut_between {front body : List Instruction} {first last : Instruction}
    (before : ∀ step ∈ front, step.IsUncut) (opening : first.IsUncut)
    (inner : ∀ step ∈ body, step.IsUncut) (closing : last.IsUncut) :
    ∀ step ∈ front ++ first :: nested body ++ [last], step.IsUncut := by
  have opened := List.forall_mem_cons.2 ⟨opening, uncut_nested inner⟩
  have closed := List.forall_mem_singleton.2 closing
  exact List.forall_mem_append.2 ⟨List.forall_mem_append.2 ⟨before, opened⟩, closed⟩

/-- The lines of code without carriage returns are not cut. -/
theorem Item.uncut_codeLines {code : String} (uniform : '\r' ∉ code.toList) :
    ∀ step ∈ Item.codeLines code, step.IsUncut := by
  refine Instruction.uncut_of_leaves (leaves_codeLines fun line own filled => ?_)
  have newline := Text.newline_not_mem_lines _ line own
  have carriage : '\r' ∉ line := fun inside =>
    uniform (Text.subset_of_mem_lines _ line own inside)
  refine ⟨?_, ?_, ?_⟩
  · rwa [Ne, String.ofList_eq_empty_iff]
  · rwa [String.toList_ofList]
  · rwa [String.toList_ofList]

/-- The line that opens a body is not cut. -/
theorem Block.uncut_opening {head : String} (unbroken : IsUnbroken head) :
    (Block.opening head).IsUncut := by
  unfold opening
  split
  · exact show IsUncut "\x7b" by decide
  · exact unbroken.append_uncut (by decide)

/-- The line that closes a body is not cut. -/
theorem Block.uncut_closing {tail : Option String} (parts : ∀ text ∈ tail.toList, IsUnbroken text) :
    (Block.closing tail).IsUncut := by
  cases tail with
  | none => exact show IsUncut "\x7d" by decide
  | some tail => exact (show IsUncut "\x7d " by decide).append (parts tail List.mem_cons_self)

/-- Comments of unbroken texts are not cut. -/
theorem uncut_comments {comments : Comments} (parts : ∀ text ∈ comments.lines, IsUnbroken text) :
    ∀ step ∈ instructions comments, step.IsUncut :=
  Instruction.uncut_of_leaves (leaves_comments IsUnbroken.isLined parts)

/-- Comments of unbroken texts and a line are not cut. -/
theorem uncut_remarked {comments : Comments} {text : String}
    (parts : ∀ text ∈ comments.lines, IsUnbroken text) (own : IsUncut text) :
    ∀ step ∈ instructions comments ++ [.line text], step.IsUncut :=
  List.forall_mem_append.2 ⟨uncut_comments parts, own.uncut_line⟩

/-- An enumeration of unbroken texts is not cut. -/
theorem Enumeration.uncut {enumeration : Enumeration}
    (parts : ∀ text ∈ enumeration.supplied, IsUnbroken text) :
    ∀ step ∈ instructions enumeration, step.IsUncut := by
  obtain ⟨remarks, others⟩ := List.forall_mem_append.1 parts
  obtain ⟨named, valued⟩ := List.forall_mem_cons.1 others
  have word : IsUncut "enum " := by decide
  have brace : IsUnbroken " \x7b" := by decide
  have opening := (word.append named).append brace
  have closing : IsUncut "\x7d;" := by decide
  have entries := Enumeration.leaves_entries IsUnbroken.isLined 0 valued
  exact Instruction.uncut_between (uncut_comments remarks) opening
    (Instruction.uncut_of_leaves entries) closing

/-- The name for a struct is written as a body between its braces. -/
theorem Typedef.instructions_struct (comments : Comments) (body : StructBody) (name : String) :
    instructions (Typedef.mk comments (.struct body) name) =
      instructions comments ++ .line ("typedef " ++ StructBody.keyword body.tag ++ " \x7b") ::
        Instruction.nested (instructions body.fields) ++ [.line ("\x7d " ++ name ++ ";")] :=
  (List.append_assoc _ _ _).symm

/-- A type name of unbroken texts is not cut. -/
theorem Typedef.uncut {typedef : Typedef} (parts : ∀ text ∈ typedef.supplied, IsUnbroken text) :
    ∀ step ∈ instructions typedef, step.IsUncut := by
  obtain ⟨comments, type, name⟩ := typedef
  obtain ⟨remarks, others⟩ := List.forall_mem_append.1 parts
  obtain ⟨named, typed⟩ := List.forall_mem_cons.1 others
  have kept := IsUnbroken.isLined.toIsKept
  have word : IsUncut "typedef " := by decide
  have semicolon : IsUnbroken ";" := by decide
  cases type with
  | struct body =>
    obtain ⟨tag, fields⟩ := body
    obtain ⟨tagged, membered⟩ := List.forall_mem_append.1 typed
    have brace : IsUnbroken " \x7b" := by decide
    have back : IsUncut "\x7d " := by decide
    have opening := (word.append (StructBody.kept_keyword kept tagged)).append brace
    have closing := (back.append named).append semicolon
    have members := Instruction.uncut_of_leaves (leaves_declarations IsUnbroken.isLined membered)
    rw [Typedef.instructions_struct]
    exact Instruction.uncut_between (uncut_comments remarks) opening members closing
  | _ =>
    have declared := CType.kept_declarator kept _ typed named
    exact uncut_remarked remarks ((word.append declared).append semicolon)

/-- An item without a body that is built from unbroken texts is not cut. -/
theorem Item.uncut_of_bodiless {item : Item} (bodiless : item.body? = none)
    (parts : ∀ text ∈ item.supplied, IsUnbroken text) : ∀ step ∈ item.layout, step.IsUncut := by
  have lined := IsUnbroken.isLined
  have ended {text : String} (unbroken : IsUnbroken text) :
      ∀ step ∈ [Instruction.line (text ++ ";")], step.IsUncut :=
    (unbroken.append_uncut (by decide)).uncut_line
  cases item with
  | function | block | arm | guard => simp [Item.body?] at bodiless
  | blank => exact List.forall_mem_singleton.2 trivial
  | raw code => exact uncut_codeLines (parts code List.mem_cons_self).carriage
  | comment comments => exact uncut_comments parts
  | evaluate expr => exact ended (parts expr.code List.mem_cons_self)
  | returns value => exact Instruction.uncut_of_leaves (leaves_returnLine lined parts)
  | throws value =>
    have word : IsUnbroken "throw " := by decide
    exact ended (word.append (parts value.code List.mem_cons_self))
  | breaks => exact ended (show IsUnbroken "break" by decide)
  | continues => exact ended (show IsUnbroken "continue" by decide)
  | type type => exact ended (type.kept_declarator lined.toIsKept parts lined.empty)
  | declaration declaration => exact Instruction.uncut_of_leaves (leaves_declaration lined parts)
  | typedef typedef => exact typedef.uncut parts
  | prototype prototype =>
    have front := (List.forall_mem_append.1 parts).1
    have signed := Prototype.kept_text lined.toIsKept parts
    exact uncut_remarked (List.forall_mem_append.1 front).1 (signed.append_uncut (by decide))
  | enumeration enumeration => exact enumeration.uncut parts
  | inclusion inclusion =>
    obtain ⟨remarks, target⟩ := List.forall_mem_append.1 parts
    have word : IsUncut "#include " := by decide
    exact uncut_remarked remarks (word.append (target inclusion.target List.mem_cons_self))
  | define definition =>
    obtain ⟨name, value⟩ := definition
    obtain ⟨own, rest⟩ := List.forall_mem_cons.1 parts
    have word : IsUncut "#define " := by decide
    have space : IsUnbroken " " := by decide
    cases value with
    | none => exact (word.append own).uncut_line
    | some value =>
      have defined := ((word.append own).append space).append (rest value List.mem_cons_self)
      exact defined.uncut_line

/-- No line of items is cut. -/
theorem Item.uncut_layoutAll {items : List Item}
    (uniform : ∀ text ∈ Item.suppliedAll items, '\r' ∉ text.toList)
    (unbroken : ∀ text ∈ Item.proseAll items, '\n' ∉ text.toList) :
    ∀ step ∈ Item.layoutAll items, step.IsUncut := by
  have parts {texts : List String} (newline : ∀ text ∈ texts, '\n' ∉ text.toList)
      (carriage : ∀ text ∈ texts, '\r' ∉ text.toList) : ∀ text ∈ texts, IsUnbroken text :=
    fun text mem => ⟨newline text mem, carriage text mem⟩
  induction items using Item.bodies_induction with
  | nil => exact List.forall_mem_nil _
  | leaf item items bodiless rest =>
    obtain ⟨uniformOwn, uniformRest⟩ := List.forall_mem_append.1 uniform
    obtain ⟨own, others⟩ := List.forall_mem_append.1 unbroken
    refine List.forall_mem_append.2 ⟨?_, rest uniformRest others⟩
    cases item with
    | function | block | arm | guard => simp [Item.body?] at bodiless
    | raw code => exact uncut_codeLines (uniformOwn code List.mem_cons_self)
    | _ => exact uncut_of_bodiless bodiless (parts own uniformOwn)
  | body item items inner held within rest =>
    obtain ⟨uniformOwn, uniformRest⟩ := List.forall_mem_append.1 uniform
    obtain ⟨own, others⟩ := List.forall_mem_append.1 unbroken
    refine List.forall_mem_append.2 ⟨?_, rest uniformRest others⟩
    cases item with
    | function item =>
      obtain ⟨comments, prototype, body⟩ := item
      obtain rfl : body = inner := Option.some.inj held
      obtain ⟨uniformFront, uniformBody⟩ := List.forall_mem_append.1 uniformOwn
      obtain ⟨front, inside⟩ := List.forall_mem_append.1 own
      obtain ⟨remarks, signed⟩ := List.forall_mem_append.1 (parts front uniformFront)
      have noted := (List.forall_mem_append.1 (List.forall_mem_append.1 signed).1).1
      have before := List.forall_mem_append.2 ⟨uncut_comments remarks, uncut_comments noted⟩
      have head := Prototype.kept_text IsUnbroken.isLined.toIsKept signed
      have untailed : (Block.closing none).IsUncut := Block.uncut_closing (List.forall_mem_nil _)
      exact Instruction.uncut_between before (Block.uncut_opening head) (within uniformBody inside)
        untailed
    | block item =>
      obtain ⟨comments, head, body, tail⟩ := item
      obtain rfl : body = inner := Option.some.inj held
      obtain ⟨uniformFront, uniformBody⟩ := List.forall_mem_append.1 uniformOwn
      obtain ⟨front, inside⟩ := List.forall_mem_append.1 own
      obtain ⟨remarks, around⟩ := List.forall_mem_append.1 (parts front uniformFront)
      obtain ⟨headed, tailed⟩ := List.forall_mem_cons.1 around
      exact Instruction.uncut_between (uncut_comments remarks) (Block.uncut_opening headed)
        (within uniformBody inside) (Block.uncut_closing tailed)
    | arm item =>
      obtain ⟨label, body⟩ := item
      obtain rfl : body = inner := Option.some.inj held
      obtain ⟨uniformFront, uniformBody⟩ := List.forall_mem_append.1 uniformOwn
      obtain ⟨front, inside⟩ := List.forall_mem_append.1 own
      have labelled := SwitchArm.leaves_labelLine IsUnbroken.isLined (parts front uniformFront)
      have opening := Instruction.uncut_of_leaves labelled
      have nested := Instruction.uncut_nested (within uniformBody inside)
      exact List.forall_mem_append.2 ⟨opening, nested⟩
    | guard item =>
      obtain ⟨name, body⟩ := item
      obtain rfl : body = inner := Option.some.inj held
      obtain ⟨uniformName, uniformBody⟩ := List.forall_mem_cons.1 uniformOwn
      obtain ⟨newline, inside⟩ := List.forall_mem_cons.1 own
      have named : IsUnbroken name := ⟨newline, uniformName⟩
      have absent := (show IsUncut "#ifndef " by decide).append named
      have defined := (show IsUncut "#define " by decide).append named
      have closing : IsUncut "#endif" := by decide
      have guarded := List.forall_mem_append.2 ⟨within uniformBody inside, closing.uncut_line⟩
      exact List.forall_mem_cons.2 ⟨absent, List.forall_mem_cons.2 ⟨defined, guarded⟩⟩
    | _ => simp [Item.body?] at held

/-- Whether only code that is taken as it is may have newlines, and nothing has carriage returns. -/
structure Item.IsLinewise (items : List Item) : Prop where
  /-- No text has a carriage return. -/
  uniform : ∀ text ∈ Item.suppliedAll items, '\r' ∉ text.toList
  /-- No text other than such code has a newline. -/
  unbroken : ∀ text ∈ Item.proseAll items, '\n' ∉ text.toList

instance (items : List Item) : Decidable (Item.IsLinewise items) :=
  decidable_of_iff ((∀ text ∈ Item.suppliedAll items, '\r' ∉ text.toList) ∧
      ∀ text ∈ Item.proseAll items, '\n' ∉ text.toList)
    ⟨fun ⟨uniform, unbroken⟩ => ⟨uniform, unbroken⟩, fun ⟨uniform, unbroken⟩ => ⟨uniform, unbroken⟩⟩

/-- Linewise items are not cut. -/
theorem Item.IsLinewise.uncut {items : List Item} (linewise : Item.IsLinewise items) :
    ∀ step ∈ instructions items, step.IsUncut := by
  rw [← Item.layoutAll_eq]
  exact Item.uncut_layoutAll linewise.uniform linewise.unbroken

/-- Whether the items of a unit are linewise and its comments have no line breaks. -/
structure SourceUnit.IsLinewise (unit : SourceUnit) : Prop where
  /-- No comment has a line break. -/
  comments : ∀ text ∈ unit.comments.lines, IsUnbroken text
  /-- The items are linewise. -/
  items : Item.IsLinewise unit.items

instance (unit : SourceUnit) : Decidable unit.IsLinewise :=
  decidable_of_iff ((∀ text ∈ unit.comments.lines, IsUnbroken text) ∧ Item.IsLinewise unit.items)
    ⟨fun ⟨comments, items⟩ => ⟨comments, items⟩, fun ⟨comments, items⟩ => ⟨comments, items⟩⟩

/-- A linewise unit is not cut. -/
theorem SourceUnit.IsLinewise.uncut {unit : SourceUnit} (linewise : unit.IsLinewise) :
    ∀ step ∈ instructions unit, step.IsUncut :=
  List.forall_mem_append.2 ⟨uncut_comments linewise.comments, linewise.items.uncut⟩

/-- Whether an entry is not cut: the line that it is, is one line and not empty. -/
def Page.Entry.IsUncut : Page.Entry → Prop
  | line _ text => Text.IsUncut text
  | blank => True

/-- Uncut instructions are recorded as uncut entries. -/
theorem Page.Entry.uncut_of_recordFrom {depth : Nat} {steps : List Instruction}
    {entries : List Page.Entry} (recorded : recordFrom depth steps = some entries)
    (uncut : ∀ step ∈ steps, step.IsUncut) : ∀ entry ∈ entries, entry.IsUncut := by
  induction steps generalizing depth entries with
  | nil =>
    rw [recordFrom] at recorded
    split at recorded
    · obtain rfl := Option.some.inj recorded
      exact List.forall_mem_nil _
    · contradiction
  | cons step steps ih =>
    obtain ⟨own, later⟩ := List.forall_mem_cons.1 uncut
    cases step with
    | line text =>
      obtain ⟨others, rest, rfl⟩ := Option.map_eq_some_iff.1 recorded
      exact List.forall_mem_cons.2 ⟨own, ih rest later⟩
    | raw text => contradiction
    | blank =>
      obtain ⟨others, rest, rfl⟩ := Option.map_eq_some_iff.1 recorded
      exact List.forall_mem_cons.2 ⟨trivial, ih rest later⟩
    | indent => exact ih recorded later
    | dedent =>
      rw [recordFrom] at recorded
      split at recorded
      · contradiction
      · exact ih recorded later

/-- A thing that is written by uncut instructions is written as uncut entries. -/
theorem IsWrittenAs.uncut {α : Type} [Render α] {thing : α} {entries : List Page.Entry}
    (written : IsWrittenAs thing entries) (uncut : ∀ step ∈ instructions thing, step.IsUncut) :
    ∀ entry ∈ entries, entry.IsUncut :=
  Page.Entry.uncut_of_recordFrom written.recorded uncut

end CSource
