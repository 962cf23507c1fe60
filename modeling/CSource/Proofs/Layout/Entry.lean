import CSource.Proofs.Layout.Nesting

/-!
# Entries

What instructions leave on a page can be told without the page, as a list of entries: empty lines,
and lines at a depth counted from where the instructions begin. The list is read from the
instructions alone (`Page.Entry.record`), unless one of them writes text that is no line or they
are not nested. Every page that follows such instructions gets the text of the entries, in its own
style and from its own level on, and is otherwise as before (`Page.follow_eq`).
-/

namespace CSource

/-- An empty line, or a line at a depth. -/
inductive Page.Entry where
  /-- A line. -/
  | line (depth : Nat) (text : String)
  /-- An empty line. -/
  | blank
deriving DecidableEq, Repr

namespace Page.Entry

/-- An entry as a row of a page. -/
def row : Entry → Page.Row
  | line depth text => .line depth text
  | blank => .blank

/-- The text of an entry in a style, from a level on. -/
def text (style : Indent) (level : Nat) : Entry → String
  | line depth text => style.margin (level + depth) ++ text ++ "\n"
  | blank => "\n"

/-- The text of entries in order. -/
def texts (style : Indent) (level : Nat) (entries : List Entry) : String :=
  String.join (entries.map (text style level))

/-- Entries in a row have the text of each part. -/
theorem texts_append (style : Indent) (level : Nat) (left right : List Entry) :
    texts style level (left ++ right) = texts style level left ++ texts style level right := by
  simp [texts]

/-- The entries that instructions leave from a depth on, if they write lines only, never go
further out than in and end at no depth. -/
def recordFrom : Nat → List Instruction → Option (List Entry)
  | depth, [] => if depth = 0 then some [] else none
  | depth, .line text :: steps => (recordFrom depth steps).map (.line depth text :: ·)
  | depth, .blank :: steps => (recordFrom depth steps).map (.blank :: ·)
  | _, .raw _ :: _ => none
  | depth, .indent :: steps => recordFrom (depth + 1) steps
  | depth, .dedent :: steps => if depth = 0 then none else recordFrom (depth - 1) steps

/-- The entries that instructions leave, if they are nested and write lines only. -/
def record (steps : List Instruction) : Option (List Entry) := recordFrom 0 steps

/-- Nested instructions that leave entries are recorded as these. -/
theorem recordFrom_of_written {steps : List Instruction} {depth : Nat} {entries : List Entry}
    (bounded : ∀ before, before <+: steps →
      before.count .dedent ≤ before.count .indent + depth)
    (whole : steps.count .dedent = steps.count .indent + depth)
    (written : Instruction.written depth steps = entries.map row) :
    recordFrom depth steps = some entries := by
  -- The bound on the rest is the bound on longer starts, with the first step in the depth.
  induction steps generalizing depth entries with
  | nil =>
    obtain rfl : depth = 0 := by simpa using whole.symm
    obtain rfl : entries = [] := List.map_eq_nil_iff.1 written.symm
    rfl
  | cons step steps ih =>
    have first := bounded [step] (List.cons_prefix_cons.2 ⟨rfl, List.nil_prefix⟩)
    have rest : ∀ before, before <+: steps →
        before.count .dedent ≤ before.count .indent + Page.levelAfter depth step := by
      intro before start
      have longer := bounded (step :: before) (List.cons_prefix_cons.2 ⟨rfl, start⟩)
      cases step <;> simp [Page.levelAfter] at longer first ⊢ <;> omega
    have ends : steps.count .dedent = steps.count .indent + Page.levelAfter depth step := by
      cases step <;> simp [Page.levelAfter] at whole first ⊢ <;> omega
    have later {others : List Entry} (shown : Instruction.written (Page.levelAfter depth step)
        steps = others.map row) := ih rest ends shown
    cases step with
    | line text =>
      obtain ⟨entry, others, rfl, same, shown⟩ := List.map_eq_cons_iff.1 written.symm
      cases entry with
      | line other content =>
        obtain ⟨rfl, rfl⟩ := Page.Row.line.inj same
        exact Option.map_eq_some_iff.2 ⟨others, later shown.symm, rfl⟩
      | blank => contradiction
    | raw text =>
      obtain ⟨entry, _, _, same, _⟩ := List.map_eq_cons_iff.1 written.symm
      cases entry <;> contradiction
    | blank =>
      obtain ⟨entry, others, rfl, same, shown⟩ := List.map_eq_cons_iff.1 written.symm
      cases entry with
      | line other content => contradiction
      | blank => exact Option.map_eq_some_iff.2 ⟨others, later shown.symm, rfl⟩
    | indent => exact later written
    | dedent =>
      have inner : depth ≠ 0 := by
        rintro rfl
        simp at first
      rw [recordFrom, if_neg inner]
      exact later written

end Page.Entry

/-- A page that follows recorded instructions gets the text of their entries and is otherwise as
before. -/
theorem Page.follow_eq {steps : List Instruction} {depth : Nat} {entries : List Page.Entry}
    (recorded : Page.Entry.recordFrom depth steps = some entries) (page : Page) (level : Nat)
    (within : page.level = level + depth) :
    page.follow steps =
      ⟨page.style, level, page.text ++ Page.Entry.texts page.style level entries⟩ := by
  -- The depth of the record and the level of the page change together, whatever the page holds.
  induction steps generalizing depth entries page with
  | nil =>
    rw [Page.Entry.recordFrom] at recorded
    split at recorded
    · rename_i outermost
      obtain rfl := Option.some.inj recorded
      obtain rfl : page.level = level := by rw [within, outermost, Nat.add_zero]
      simp [Page.Entry.texts]
    · contradiction
  | cons step steps ih =>
    cases step with
    | line text =>
      simp only [Page.Entry.recordFrom, Option.map_eq_some_iff] at recorded
      obtain ⟨others, rest, rfl⟩ := recorded
      have later := ih rest (page.write (.line text)) within
      rw [Page.follow_cons, later]
      simp [Page.write, Page.appended, Page.Entry.texts, Page.Entry.text, within,
        String.append_assoc]
    | raw text => simp [Page.Entry.recordFrom] at recorded
    | blank =>
      simp only [Page.Entry.recordFrom, Option.map_eq_some_iff] at recorded
      obtain ⟨others, rest, rfl⟩ := recorded
      have later := ih rest (page.write .blank) within
      rw [Page.follow_cons, later]
      simp [Page.write, Page.appended, Page.Entry.texts, Page.Entry.text, String.append_assoc]
    | indent =>
      have deeper : (page.write .indent).level = level + (depth + 1) := by
        rw [← Nat.add_assoc, ← within]
        rfl
      have later := ih recorded (page.write .indent) deeper
      rw [Page.follow_cons, later]
      simp [Page.write, Page.appended]
    | dedent =>
      rw [Page.Entry.recordFrom] at recorded
      split at recorded
      · contradiction
      · have outer : (page.write .dedent).level = level + (depth - 1) := by
          have less : page.level - 1 = level + (depth - 1) := by omega
          exact less
        have later := ih recorded (page.write .dedent) outer
        rw [Page.follow_cons, later]
        simp [Page.write, Page.appended]

/-- Instructions that leave the rows of some entries are recorded as these. -/
theorem Instruction.Writes.record {steps : List Instruction} {rows : Nat → List Page.Row}
    {entries : List Page.Entry} (writes : Writes steps rows)
    (shown : rows 0 = entries.map Page.Entry.row) : Page.Entry.record steps = some entries := by
  have starts := writes.balanced.starts
  have whole := writes.balanced.whole
  exact Page.Entry.recordFrom_of_written (fun before start => starts before start) whole.symm
    ((writes.written 0).trans shown)

/-- Whether a thing is written as the given entries: its instructions are recorded as these, and
every page gets their text, in its own style and from its own level on, and is otherwise as
before. -/
structure IsWrittenAs {α : Type} [Render α] (thing : α) (entries : List Page.Entry) : Prop where
  /-- The instructions are recorded as the entries. -/
  recorded : Page.Entry.record (instructions thing) = some entries
  /-- Every page gets the text of the entries. -/
  emitted : ∀ page : Page, page.emit thing =
    { page with text := page.text ++ Page.Entry.texts page.style page.level entries }

namespace IsWrittenAs

variable {α : Type} [Render α] {thing : α} {entries : List Page.Entry}

/-- A thing is written as what its instructions are recorded as. -/
theorem of_record (recorded : Page.Entry.record (instructions thing) = some entries) :
    IsWrittenAs thing entries :=
  ⟨recorded, fun page => Page.follow_eq recorded page page.level rfl⟩

/-- The text of a thing on a page of its own is the text of its entries. -/
theorem renderWith_eq (written : IsWrittenAs thing entries) (style : Indent) :
    renderWith style thing = Page.Entry.texts style 0 entries := by
  rw [renderWith, written.emitted]
  simp [Page.empty]

end IsWrittenAs
end CSource
