import CSource.CType.Builtin
import CSource.Proofs.Item.Lines

/-!
# Alignment of items

Items that are built from bare texts have their braces, arms and guarded parts in the lines that
the items write themselves. So their rows are nested as C nests them (`Item.nested_placedAll`), and
the indentation shows the nesting.
-/

namespace CSource

open Instruction (rowsAt)
open Placed (Nested ofRows)
open Text (IsBare IsInline)

namespace Placed

variable {arms depth : Nat} {front steps : List Instruction} {rows : List Placed}

/-- The entries of rows in a row are those of each part. -/
theorem ofRows_append (arms : Nat) (left right : List Page.Row) :
    ofRows arms (left ++ right) = ofRows arms left ++ ofRows arms right := by
  rw [ofRows, List.filterMap_append, List.map_append]
  rfl

/-- Lines that stand alone are nested. -/
theorem Nested.ofRows (settled : ∀ step ∈ steps, step.IsSettled) :
    Nested arms depth (ofRows arms (rowsAt depth steps)) := by
  induction steps with
  | nil => exact .nil
  | cons step steps ih =>
    obtain ⟨own, others⟩ := List.forall_mem_cons.1 settled
    cases step with
    | line text => exact .append (.line own) (ih others)
    | blank => exact .append .blank (ih others)
    | raw | indent | dedent => exact own.elim

/-- A body between braces is nested, with lines that stand alone before it. -/
theorem Nested.body {head tail : String} (settled : ∀ step ∈ front, step.IsSettled)
    (headed : IsInline head) (inner : Nested arms (depth + 1) rows) (tailed : IsInline tail) :
    Nested arms depth (Placed.ofRows arms (rowsAt depth (front ++ [.line (head ++ "\x7b")])) ++
      rows ++ Placed.ofRows arms (rowsAt depth [.line ("\x7d" ++ tail)])) := by
  have all := Nested.append (Nested.ofRows settled) (.braced headed inner tailed)
  have parts : rowsAt depth (front ++ [.line (head ++ "\x7b")]) =
      rowsAt depth front ++ [.line depth (head ++ "\x7b")] := by
    rw [rowsAt, List.filterMap_append]
    rfl
  rw [parts, ofRows_append, List.append_assoc, List.append_assoc]
  exact all

end Placed

/-- The line that opens a body ends with its only open brace. -/
theorem Block.opening_eq {head : String} (inline : IsInline head) :
    ∃ front, IsInline front ∧ Block.opening head = .line (front ++ "\x7b") := by
  by_cases empty : head = ""
  · exact ⟨"", by decide, by rw [opening, if_pos empty]; rfl⟩
  · refine ⟨head ++ " ", inline.append .space, ?_⟩
    rw [opening, if_neg empty, String.append_assoc]
    rfl

/-- The line that closes a body begins with the brace. -/
theorem Block.closing_eq {tail : Option String} (bare : ∀ text ∈ tail.toList, IsBare text) :
    ∃ back, IsInline back ∧ Block.closing tail = .line ("\x7d" ++ back) := by
  cases tail with
  | none => exact ⟨"", by decide, rfl⟩
  | some tail =>
    have inline := (bare tail List.mem_cons_self).isInline
    refine ⟨" " ++ tail, IsInline.space.append inline, ?_⟩
    rw [closing, ← String.append_assoc]
    rfl

/-- The body of a function or block is nested, with lines that stand alone before it. -/
theorem Placed.Nested.block {arms depth : Nat} {front : List Instruction} {rows : List Placed}
    {head : String} {tail : Option String} (settled : ∀ step ∈ front, step.IsSettled)
    (headed : IsInline head) (inner : Nested arms (depth + 1) rows)
    (tailed : ∀ text ∈ tail.toList, IsBare text) :
    Nested arms depth (Placed.ofRows arms (rowsAt depth (front ++ [Block.opening head])) ++ rows ++
      Placed.ofRows arms (rowsAt depth [Block.closing tail])) := by
  obtain ⟨start, opens, opening⟩ := Block.opening_eq headed
  obtain ⟨stop, closes, closing⟩ := Block.closing_eq tailed
  rw [opening, closing]
  exact .body settled opens inner closes

/-- The rows of a name for a struct are a body between braces. -/
theorem Typedef.rows_struct (depth : Nat) (comments : Comments) (body : StructBody)
    (name : String) :
    Typedef.rows depth ⟨comments, .struct body, name⟩ =
      rowsAt depth (instructions comments ++
          [.line ("typedef " ++ StructBody.keyword body.tag ++ " " ++ "\x7b")]) ++
        rowsAt (depth + 1) (instructions body.fields) ++
        rowsAt depth [.line ("\x7d" ++ (" " ++ name ++ ";"))] := by
  have closing : "\x7d" ++ (" " ++ (name ++ ";")) = "\x7d " ++ (name ++ ";") := by
    rw [← String.append_assoc]
    rfl
  simp [rows, rowsAt, Instruction.row?, String.append_assoc, closing]

/-- The entries of an enumeration are nested. -/
theorem Enumeration.nested {enumeration : Enumeration}
    (bare : ∀ text ∈ enumeration.supplied, IsBare text) (arms depth : Nat) :
    Nested arms depth (ofRows arms (enumeration.rows depth)) := by
  obtain ⟨remarks, others⟩ := List.forall_mem_append.1 bare
  obtain ⟨named, valued⟩ := List.forall_mem_cons.1 others
  have word : IsInline "enum " := by decide
  have head := (word.append named.isInline).append .space
  have values := settled_of_leaves (Enumeration.leaves_entries IsBare.isLined 0 valued)
  have opening : "enum " ++ enumeration.name ++ " \x7b" =
      "enum " ++ enumeration.name ++ " " ++ "\x7b" := by
    rw [@String.append_assoc _ " "]
    rfl
  rw [rows_eq, opening, Placed.ofRows_append, Placed.ofRows_append]
  exact .body (settled_comments remarks) head (.ofRows values) .semicolon

/-- The entries of a type name are nested. -/
theorem Typedef.nested {typedef : Typedef}
    (bare : ∀ text ∈ typedef.supplied, IsBare text) (arms depth : Nat) :
    Nested arms depth (ofRows arms (typedef.rows depth)) := by
  obtain ⟨comments, type, name⟩ := typedef
  obtain ⟨remarks, others⟩ := List.forall_mem_append.1 bare
  obtain ⟨named, typed⟩ := List.forall_mem_cons.1 others
  have word : IsInline "typedef " := by decide
  cases type with
  | struct body =>
    obtain ⟨tag, fields⟩ := body
    obtain ⟨tagged, membered⟩ := List.forall_mem_append.1 typed
    have head := (word.append (StructBody.kept_keyword IsBare.isKept tagged)).append .space
    have members := settled_of_leaves (leaves_declarations IsBare.isLined membered)
    have tail := (IsInline.space.append named.isInline).append .semicolon
    rw [rows_struct, Placed.ofRows_append, Placed.ofRows_append]
    exact .body (settled_comments remarks) head (.ofRows members) tail
  | _ =>
    have declared := CType.isInline_declarator _ typed named.isInline
    have inline := (word.append declared).append .semicolon
    rw [rows, Placed.ofRows_append]
    exact .append (.ofRows (settled_comments remarks)) (.line inline.isSettled)

/-- The entries of an item without a body that is built from bare texts are nested. -/
theorem Item.nested_of_bodiless {item : Item} (bodiless : item.body? = none)
    (bare : ∀ text ∈ item.supplied, IsBare text) (arms depth : Nat) :
    Nested arms depth (item.placed arms depth) := by
  have ended {text : String} (inline : IsInline text) :
      ∀ step ∈ [Instruction.line (text ++ ";")], step.IsSettled :=
    (inline.append .semicolon).settled_line
  cases item with
  | function | block | arm | guard => simp [Item.body?] at bodiless
  | enumeration enumeration => exact enumeration.nested bare arms depth
  | typedef typedef => exact typedef.nested bare arms depth
  | blank => exact .blank
  | raw code => exact .ofRows (settled_codeLines (bare code List.mem_cons_self))
  | comment comments => exact .ofRows (settled_comments bare)
  | evaluate expr => exact .ofRows (ended (bare expr.code List.mem_cons_self).isInline)
  | returns value =>
    exact .ofRows (settled_of_leaves (leaves_returnLine IsBare.isLined bare))
  | throws value =>
    have word : IsInline "throw " := by decide
    exact .ofRows (ended (word.append (bare value.code List.mem_cons_self).isInline))
  | breaks => exact .ofRows (ended (show IsInline "break" by decide))
  | continues => exact .ofRows (ended (show IsInline "continue" by decide))
  | type type => exact .ofRows (ended (type.isInline_declarator bare .empty))
  | declaration declaration =>
    exact .ofRows (settled_of_leaves (leaves_declaration IsBare.isLined bare))
  | prototype prototype =>
    have inline := Prototype.kept_text IsBare.isKept bare
    have front := (List.forall_mem_append.1 bare).1
    have remarks := settled_comments (List.forall_mem_append.1 front).1
    exact .ofRows (List.forall_mem_append.2 ⟨remarks, ended inline⟩)
  | inclusion inclusion =>
    obtain ⟨remarks, target⟩ := List.forall_mem_append.1 bare
    have inline := (target inclusion.target List.mem_cons_self).isInline
    have line : ∀ step ∈ [Instruction.line ("#include " ++ inclusion.target)], step.IsSettled :=
      List.forall_mem_singleton.2 (inline.isSettled_directive (.inl rfl))
    exact .ofRows (List.forall_mem_append.2 ⟨settled_comments remarks, line⟩)
  | define definition =>
    have line : ∀ step ∈ [Instruction.line definition.text], step.IsSettled :=
      List.forall_mem_singleton.2 (Define.isSettled_text bare)
    exact .ofRows line

/-- The entries of items that are built from bare texts are nested. -/
theorem Item.nested_placedAll {items : List Item}
    (bare : ∀ text ∈ Item.suppliedAll items, IsBare text) (arms depth : Nat) :
    Nested arms depth (Item.placedAll arms depth items) := by
  induction items using Item.bodies_induction generalizing arms depth with
  | nil => exact .nil
  | leaf item items bodiless rest =>
    obtain ⟨own, others⟩ := List.forall_mem_append.1 bare
    exact .append (Item.nested_of_bodiless bodiless own arms depth) (rest others arms depth)
  | body item items inner held within rest =>
    obtain ⟨own, others⟩ := List.forall_mem_append.1 bare
    refine .append ?_ (rest others arms depth)
    cases item with
    | function item =>
      obtain ⟨comments, prototype, body⟩ := item
      obtain rfl : body = inner := Option.some.inj held
      obtain ⟨front, inside⟩ := List.forall_mem_append.1 own
      obtain ⟨remarks, signed⟩ := List.forall_mem_append.1 front
      have noted := (List.forall_mem_append.1 (List.forall_mem_append.1 signed).1).1
      have lines := List.forall_mem_append.2 ⟨settled_comments remarks, settled_comments noted⟩
      have head := Prototype.kept_text IsBare.isKept signed
      have untailed : ∀ text ∈ (none : Option String).toList, IsBare text := List.forall_mem_nil _
      exact .block lines head (within inside arms (depth + 1)) untailed
    | block item =>
      obtain ⟨comments, head, body, tail⟩ := item
      obtain rfl : body = inner := Option.some.inj held
      obtain ⟨front, inside⟩ := List.forall_mem_append.1 own
      obtain ⟨remarks, around⟩ := List.forall_mem_append.1 front
      obtain ⟨headed, tailed⟩ := List.forall_mem_cons.1 around
      have lines := settled_comments remarks
      exact .block lines headed.isInline (within inside arms (depth + 1)) tailed
    | arm item =>
      obtain ⟨label, body⟩ := item
      obtain rfl : body = inner := Option.some.inj held
      obtain ⟨labelled, inside⟩ := List.forall_mem_append.1 own
      have deeper := (within inside (arms + 1) (depth + 1)).arm
      have label := settled_of_leaves (SwitchArm.leaves_labelLine IsBare.isLined labelled)
      exact .append (.ofRows label) deeper
    | guard item =>
      obtain ⟨name, body⟩ := item
      obtain rfl : body = inner := Option.some.inj held
      obtain ⟨named, inside⟩ := List.forall_mem_cons.1 own
      have defined := named.isInline.isSettled_directive (.inr rfl)
      have guarded := Nested.append (.line defined) (within inside arms depth)
      exact .guarded named.isInline guarded
    | _ => simp [Item.body?] at held

/-- Items that are built from bare texts are written with balanced braces and guarded parts, and
every line stands as deep as braces are open before it, one less where it begins by closing one, and
one more for each arm of a switch around it. A struct that is spelled within a line closes its
braces there, wherever in a type, a parameter or a member it stands. -/
theorem Item.isBraced_placedAll {items : List Item}
    (bare : ∀ text ∈ Item.suppliedAll items, IsBare text) :
    IsWrittenAs items ((Item.placedAll 0 0 items).map Placed.entry) ∧
      (∀ style level, Placed.IsBraced style level (Item.placedAll 0 0 items)) ∧
      (∀ body : StructBody, (∀ text ∈ body.supplied, IsBare text) → IsInline body.spelling) ∧
      ∀ (type : CType) (name : String), (∀ text ∈ type.supplied, IsBare text) → IsBare name →
        IsInline (type.declare name) := by
  have nested := Item.nested_placedAll bare 0 0
  refine ⟨Item.isWrittenAs_entries items, fun style level => nested.isBraced style level,
    StructBody.isInline_spelling, fun type name typed named => ?_⟩
  exact type.isInline_declarator typed named.isInline

/-- Braces, arms, a guarded part and a struct within a line are all aligned in the rows of a header
with one function. -/
theorem Item.isBraced_placedAll_header :
    let body : StructBody := ⟨some "point", [⟨.empty, .int, "x", none⟩]⟩
    let choice : List Item := [
      .arm ⟨some ⟨"0"⟩, [.block { head := "if(p.x)", body := [.breaks] }]⟩,
      .arm ⟨none, [.returns (some ⟨"p.x"⟩)]⟩]
    let function : Function := {
      prototype := { result := .int, name := "f", parameters := [.named (.struct body) "p"] }
      body := [.block { head := "switch(p.x)", body := choice }] }
    let items : List Item := [.guard ⟨"F_H", [.function function]⟩]
    (∀ text ∈ Item.suppliedAll items, IsBare text) ∧
      (∀ style level, Placed.IsBraced style level (Item.placedAll 0 0 items)) ∧
      Item.placedAll 0 0 items = [
        ⟨0, .line 0 "#ifndef F_H"⟩,
        ⟨0, .line 0 "#define F_H"⟩,
        ⟨0, .line 0 "int f(struct point \x7b int x; \x7d p) \x7b"⟩,
        ⟨0, .line 1 "switch(p.x) \x7b"⟩,
        ⟨0, .line 2 "case 0:"⟩,
        ⟨1, .line 3 "if(p.x) \x7b"⟩,
        ⟨1, .line 4 "break;"⟩,
        ⟨1, .line 3 "\x7d"⟩,
        ⟨0, .line 2 "default:"⟩,
        ⟨1, .line 3 "return p.x;"⟩,
        ⟨0, .line 1 "\x7d"⟩,
        ⟨0, .line 0 "\x7d"⟩,
        ⟨0, .line 0 "#endif"⟩] ∧
      IsInline body.spelling ∧ IsInline ((CType.struct body).pointer.declare "p") := by
  intro body choice function items
  have bare : ∀ text ∈ Item.suppliedAll items, IsBare text := by decide
  have parts : ∀ text ∈ body.supplied, IsBare text := by decide
  have named : IsBare "p" := by decide
  obtain ⟨_, braced, spelled, declared⟩ := Item.isBraced_placedAll bare
  exact ⟨bare, braced, by decide, spelled body parts, declared _ "p" parts named⟩

end CSource

