import CSource.CType.Builtin
import CSource.Proofs.Item.Uncut

/-!
# Splicing of texts

The text of linewise items can stand in place of the items. Taken as code, it is cut into the very
lines that the items wrote, with the margins of the inner depths in them and nothing on the empty
ones (`Page.Entry.lines_texts`), and each line gets the margin of the depth where the code stands.
So nothing tells the items from their text, at any depth (`emit_raw_renderWith`).
-/

namespace CSource

open Instruction (rowsAt)
open Text (IsUnbroken IsUncut)

/-- The margin of any depth is unbroken. -/
theorem Indent.isUnbroken_margin (style : Indent) (level : Nat) :
    IsUnbroken (style.margin level) := by
  constructor <;> intro mem <;> rcases mem_margin mem with same | same <;> contradiction

namespace Page.Entry

variable {entry : Page.Entry} {entries : List Page.Entry}

/-- The line of an uncut entry is unbroken. -/
theorem IsUncut.shown (uncut : entry.IsUncut) (style : Indent) (level : Nat) :
    IsUnbroken (entry.shown style level) := by
  cases entry with
  | line depth text => exact (style.isUnbroken_margin _).append uncut.unbroken
  | blank => exact show IsUnbroken "" by decide

/-- The lines of the text of uncut entries are those of the entries. -/
theorem lines_texts (uncut : ∀ entry ∈ entries, entry.IsUncut) (style : Indent) (level : Nat) :
    Text.lines (texts style level entries).toList =
      entries.map fun entry => (entry.shown style level).toList := by
  have joined : (texts style level entries).toList =
      (entries.map fun entry => (entry.shown style level).toList).flatMap (· ++ ['\n']) := by
    simp [texts, text_eq_shown, String.toList_join, List.flatMap_map]
  rw [joined]
  apply Text.lines_flatMap
  · intro part mem
    obtain ⟨entry, own, rfl⟩ := List.mem_map.1 mem
    exact ((uncut entry own).shown style level).newline
  · intro part mem last
    obtain ⟨entry, own, rfl⟩ := List.mem_map.1 mem
    exact ((uncut entry own).shown style level).carriage (List.mem_of_getLast? last)

/-- An entry at no depth, with its margin in its text. -/
def flat (style : Indent) : Page.Entry → Page.Entry
  | line depth text => .line 0 (style.margin depth ++ text)
  | blank => .blank

/-- An entry has the same text with its margin in it. -/
theorem text_flat (style : Indent) (level : Nat) (entry : Page.Entry) :
    (entry.flat style).text style level = entry.text style level := by
  cases entry with
  | line depth content =>
    rw [flat, text, text, Nat.add_zero, style.margin_add level depth, String.append_assoc,
      String.append_assoc]
    simp [String.append_assoc]
  | blank => rfl

/-- Entries have the same text with their margins in them. -/
theorem texts_map_flat (style : Indent) (level : Nat) (entries : List Page.Entry) :
    texts style level (entries.map (flat style)) = texts style level entries := by
  simp [texts, Function.comp_def, text_flat]

/-- The line of an uncut entry is written as the entry with its margin in it. -/
theorem row?_codeLine (uncut : entry.IsUncut) (style : Indent) :
    (Item.codeLine (entry.shown style 0).toList).row? 0 = some (entry.flat style).row := by
  cases entry with
  | line depth text =>
    have filled : (style.margin (0 + depth) ++ text).toList ≠ [] := by
      simp [uncut.filled]
    rw [Page.Entry.shown, Item.codeLine, if_neg filled, String.ofList_toList, Nat.zero_add]
    rfl
  | blank => rfl

/-- The lines of uncut entries are written as the entries with their margins in them. -/
theorem rowsAt_codeLine (uncut : ∀ entry ∈ entries, entry.IsUncut) (style : Indent) :
    rowsAt 0 ((entries.map fun entry => (entry.shown style 0).toList).map Item.codeLine) =
      (entries.map (flat style)).map row := by
  induction entries with
  | nil => rfl
  | cons entry entries ih =>
    obtain ⟨own, others⟩ := List.forall_mem_cons.1 uncut
    have first := row?_codeLine own style
    rw [List.map_cons, List.map_cons, rowsAt, List.filterMap_cons_some first]
    exact congrArg _ (ih others)

end Page.Entry

/-- The text of uncut entries, taken as code, is written as the entries with their margins in
them. -/
theorem Item.isWrittenAs_raw {entries : List Page.Entry} (filled : entries ≠ [])
    (uncut : ∀ entry ∈ entries, entry.IsUncut) (style : Indent) :
    IsWrittenAs (Item.raw (Page.Entry.texts style 0 entries))
      (entries.map (Page.Entry.flat style)) := by
  have shown : rowsAt 0 (Item.codeLines (Page.Entry.texts style 0 entries)) =
      (entries.map (Page.Entry.flat style)).map Page.Entry.row := by
    have cut := Page.Entry.lines_texts uncut style 0
    have written : Page.Entry.texts style 0 entries ≠ "" := by
      intro empty
      rw [empty] at cut
      exact filled (List.map_eq_nil_iff.1 cut.symm)
    rw [codeLines, if_neg written, cut]
    exact Page.Entry.rowsAt_codeLine uncut style
  exact .of_record ((Instruction.Writes.flat (isFlat_codeLines _)).record shown)

/-- A thing that is written as uncut entries, at least one, can be replaced by its text. -/
theorem IsWrittenAs.emit_raw {α : Type} [Render α] {thing : α} {entries : List Page.Entry}
    (written : IsWrittenAs thing entries) (uncut : ∀ entry ∈ entries, entry.IsUncut) (page : Page)
    (filled : renderWith page.style thing ≠ "") :
    page.emit (Item.raw (renderWith page.style thing)) = page.emit thing := by
  rw [written.renderWith_eq] at filled ⊢
  have some : entries ≠ [] := by
    rintro rfl
    exact filled rfl
  rw [(Item.isWrittenAs_raw some uncut page.style).emitted, written.emitted,
    Page.Entry.texts_map_flat]

/-- The text of linewise items, unless it is empty, is written as the items are wherever it stands
as code, and so is the text of a linewise unit. -/
theorem emit_raw_renderWith (style : Indent) :
    (∀ items : List Item, Item.IsLinewise items → renderWith style items ≠ "" →
      ∀ page : Page, page.style = style →
        page.emit (Item.raw (renderWith style items)) = page.emit items) ∧
    ∀ unit : SourceUnit, unit.IsLinewise → renderWith style unit ≠ "" →
      renderWith style ({ items := [.raw (renderWith style unit)] } : SourceUnit) =
        renderWith style unit := by
  refine ⟨fun items linewise filled page same => ?_, fun unit linewise filled => ?_⟩
  · subst same
    have written := Item.isWrittenAs_entries items
    exact written.emit_raw (written.uncut linewise.uncut) page filled
  · have written := unit.isWrittenAs_entries
    have spliced := written.emit_raw (written.uncut linewise.uncut) (Page.empty style) filled
    have alone : instructions ({ items := [.raw (renderWith style unit)] } : SourceUnit) =
        instructions (Item.raw (renderWith style unit)) := List.append_nil _
    rw [renderWith, Page.emit, alone]
    exact congrArg Page.text spliced

/-- A function with comments, code of several lines and an empty line between statements is written
inside a body as its text is. -/
theorem emit_raw_renderWith_nested :
    let body : List Item := [.raw "if(x)\n\treturn 1;\n\n", .blank, .returns (some ⟨"0"⟩)]
    let function : Function := {
      comments := ⟨["Whether there is", "an x."]⟩
      prototype := { result := .int, name := "f", parameters := [.named .int "x"] }
      body := [.block { head := "", body }] }
    let items : List Item := [.function function]
    let text := "/*\n * Whether there is\n * an x.\n */\nint f(int x) \x7b\n  \x7b\n" ++
      "    if(x)\n    \treturn 1;\n\n\n    return 0;\n  \x7d\n\x7d\n"
    let page : Page := ⟨.compact, 2, ""⟩
    Item.IsLinewise items ∧ renderWith .compact items = text ∧
      page.emit (Item.raw text) = page.emit items := by
  intro body function items text page
  have linewise : Item.IsLinewise items := by decide
  have shown : renderWith .compact items = text := by decide
  have filled : renderWith .compact items ≠ "" := by
    rw [shown]
    decide
  obtain ⟨spliced, _⟩ := emit_raw_renderWith .compact
  have same := spliced items linewise filled page rfl
  rw [shown] at same
  exact ⟨linewise, shown, same⟩

end CSource
