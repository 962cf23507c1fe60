import CSource.Proofs.Item.Nesting
import CSource.Proofs.Layout.Shown
import CSource.Proofs.Text.Lines

/-!
# Code as it is

Code is cut into lines to be written, but what is written is told without lines, by three passes
over its characters: line breaks become newlines, the end gets one unless it has one, and each line
that is not empty gets the margin (`emit_raw_eq_indented`). Nothing else is changed: a carriage
return that stands alone, spaces at either end of a line and empty lines stay.
-/

namespace CSource

namespace Text

/-- A text with a newline for each carriage return and newline. -/
def unified : List Char → List Char
  | [] => []
  | '\r' :: '\n' :: rest => '\n' :: unified rest
  | char :: rest => char :: unified rest

/-- A text with a newline at its end, which is added unless there is one. -/
def ended (chars : List Char) : List Char :=
  if chars.getLast? = some '\n' then chars else chars ++ ['\n']

/-- A text with a margin before each line that is not empty. The margin is put before the next
character, unless that is a newline, where a line begins. -/
def indented (margin : List Char) (begins : Bool) : List Char → List Char
  | [] => []
  | '\n' :: rest => '\n' :: indented margin true rest
  | char :: rest => (if begins then margin else []) ++ char :: indented margin false rest

/-- A first character before others changes nothing at their end. -/
theorem ended_cons {chars : List Char} (filled : chars ≠ []) (char : Char) :
    ended (char :: chars) = char :: ended chars := by
  obtain ⟨next, rest, rfl⟩ := List.exists_cons_of_ne_nil filled
  rw [ended, ended, List.getLast?_cons_cons]
  split <;> rfl

/-- The pass over line breaks keeps a character that begins none. -/
theorem unified_cons {char : Char} {rest : List Char}
    (apart : ∀ after, char = '\r' → rest = '\n' :: after → False) :
    unified (char :: rest) = char :: unified rest := unified.eq_3 char rest apart

/-- A text with a character keeps one without its line breaks. -/
theorem unified_ne_nil {chars : List Char} (filled : chars ≠ []) : unified chars ≠ [] := by
  fun_cases unified chars with
  | case1 => contradiction
  | case2 | case3 => exact List.cons_ne_nil _ _

/-- Only a text without a character has no line. -/
theorem lines_eq_nil_iff (chars : List Char) : lines chars = [] ↔ chars = [] := by
  fun_cases lines chars <;> simp

/-- The lines of a text, each ended by a newline, are the text with its line breaks unified and its
end marked. -/
theorem flatMap_lines (chars : List Char) (filled : chars ≠ []) :
    (lines chars).flatMap (· ++ ['\n']) = ended (unified chars) := by
  have empty_line {rest : List Char}
      (ih : rest ≠ [] → (lines rest).flatMap (· ++ ['\n']) = ended (unified rest)) :
      ([] :: lines rest).flatMap (· ++ ['\n']) = ended ('\n' :: unified rest) := by
    rw [List.flatMap_cons, List.nil_append, List.singleton_append]
    by_cases last : rest = []
    · subst last
      rfl
    · rw [ih last, ended_cons (unified_ne_nil last)]
  fun_induction lines chars with
  | case1 => contradiction
  | case2 rest ih => exact empty_line ih
  | case3 rest ih => exact empty_line ih
  | case4 char rest other apart found ih =>
    obtain rfl := (lines_eq_nil_iff rest).1 found
    have unended : [char].getLast? ≠ some '\n' := fun same => other (Option.some.inj same)
    rw [unified_cons apart, unified, ended, if_neg unended]
    rfl
  | case5 char rest other apart line others found ih =>
    have more : rest ≠ [] := by
      rintro rfl
      contradiction
    rw [unified_cons apart, ended_cons (unified_ne_nil more), ← ih more, found]
    rfl

/-- A line that begins gets the margin, unless it is empty. -/
theorem indented_append_cons {line : List Char} (unbroken : '\n' ∉ line) (margin rest : List Char) :
    indented margin true (line ++ '\n' :: rest) =
      (if line = [] then [] else margin) ++ line ++ '\n' :: indented margin true rest := by
  have inside : ∀ line : List Char, '\n' ∉ line →
      indented margin false (line ++ '\n' :: rest) = line ++ '\n' :: indented margin true rest := by
    intro line unbroken
    induction line with
    | nil => rfl
    | cons char line ih =>
      obtain ⟨other, later⟩ := not_or.1 (mt List.mem_cons.2 unbroken)
      rw [List.cons_append, indented.eq_3 _ _ _ _ (Ne.symm other), ih later]
      rfl
  cases line with
  | nil => rfl
  | cons char line =>
    obtain ⟨other, later⟩ := not_or.1 (mt List.mem_cons.2 unbroken)
    rw [List.cons_append, indented.eq_3 _ _ _ _ (Ne.symm other), inside line later]
    simp

/-- Lines that are each ended by a newline get the margin one by one. -/
theorem indented_flatMap {parts : List (List Char)} (unbroken : ∀ part ∈ parts, '\n' ∉ part)
    (margin : List Char) :
    indented margin true (parts.flatMap (· ++ ['\n'])) =
      parts.flatMap fun part => (if part = [] then [] else margin) ++ part ++ ['\n'] := by
  induction parts with
  | nil => rfl
  | cons part parts ih =>
    obtain ⟨own, others⟩ := List.forall_mem_cons.1 unbroken
    rw [List.flatMap_cons, List.flatMap_cons, List.append_assoc, List.singleton_append,
      indented_append_cons own, ih others, List.append_assoc _ ['\n'], List.singleton_append]

end Text

/-- The text of a line of code. -/
theorem Page.shown_codeLine (style : Indent) (level : Nat) (line : List Char)
    (steps : List Instruction) :
    shown style level (Item.codeLine line :: steps) =
      (if line = [] then [] else (style.margin level).toList) ++ line ++
        '\n' :: shown style level steps := by
  by_cases empty : line = []
  · subst empty
    rw [Item.codeLine, if_pos rfl, shown, follow_cons, toList_text_follow]
    simp [write, appended, levelAfter]
  · rw [Item.codeLine, if_neg empty, if_neg empty, shown_line, String.toList_ofList,
      List.append_assoc]

/-- The text of lines of code. -/
theorem Page.shown_map_codeLine (style : Indent) (level : Nat) (lines : List (List Char)) :
    shown style level (lines.map Item.codeLine) =
      lines.flatMap fun line =>
        (if line = [] then [] else (style.margin level).toList) ++ line ++ ['\n'] := by
  induction lines with
  | nil => simp
  | cons line lines ih =>
    rw [List.map_cons, shown_codeLine, ih, List.flatMap_cons, List.append_assoc _ ['\n'],
      List.singleton_append]

/-- The characters of a margin are those of the unit of the style for each level. -/
theorem Indent.toList_margin (style : Indent) (level : Nat) :
    (style.margin level).toList = (List.replicate level style.unit.toList).flatten := by
  rw [margin_eq_join, String.toList_join, List.flatMap_def, List.map_replicate]

/-- Code is written with its line breaks unified, its end marked and the margin before each line
that is not empty. -/
theorem Item.shown_codeLines (code : String) (style : Indent) (level : Nat) :
    Page.shown style level (codeLines code) =
      Text.indented (style.margin level).toList true (Text.ended (Text.unified code.toList)) := by
  by_cases empty : code = ""
  · subst empty
    exact Page.shown_codeLine style level [] []
  · have filled : code.toList ≠ [] := mt String.toList_eq_nil_iff.1 empty
    rw [codeLines, if_neg empty, Page.shown_map_codeLine, ← Text.flatMap_lines _ filled,
      Text.indented_flatMap (Text.newline_not_mem_lines _)]

/-- Code as an item is appended to a page in three passes: each carriage return and newline becomes
a newline, a newline is added at the end unless there is one, and the unit of the style, once for
each level, is put before each line that is not empty. The page keeps its style and its level. -/
theorem emit_raw_eq_indented (page : Page) (code : String) :
    let margin := (List.replicate page.level page.style.unit.toList).flatten
    let written := Text.indented margin true (Text.ended (Text.unified code.toList))
    page.emit (Item.raw code) = { page with text := page.text ++ String.ofList written } := by
  intro margin written
  have same : Page.shown page.style page.level (Item.codeLines code) = written := by
    rw [Item.shown_codeLines, Indent.toList_margin]
  rw [← same]
  exact Page.follow_of_isFlat (isFlat_codeLines code) page

example :
    ((⟨.kernel, 1, "do\n"⟩ : Page).emit (Item.raw "a \r\r\n\r\n  b\n\n\rc\r")).text =
      "do\n\ta \r\n\n\t  b\n\n\t\rc\r\n" := by decide

end CSource
