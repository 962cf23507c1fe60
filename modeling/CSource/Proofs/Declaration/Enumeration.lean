import CSource.Proofs.Edit.Extension
import CSource.Proofs.Item.Nesting
import CSource.Proofs.Layout.Shown
import CSource.Proofs.Text.Kept

/-!
# Enumerations as C reads them

C gives the names of an enumeration their positions as values even where none is written. The
positions are written nevertheless, each on the line of its name, with a comma after each line but
the last: so the lines are read back as the names with the values that C gives to the names alone
(`Enumeration.lists_built`).
-/

namespace CSource

open Text (IsFixed)

/-- A name of an enumeration as C reads it. -/
structure Enumerator where
  /-- The name. -/
  name : String
  /-- The value that is written for it, if there is one. -/
  value? : Option Nat := none
deriving DecidableEq, Repr

namespace Enumerator

/-- The names with their values in C: the one that is written or, without one, the next whole number
after that of the name before. -/
def valued (next : Nat) : List Enumerator → List (String × Nat)
  | [] => []
  | ⟨name, value?⟩ :: others => (name, value?.getD next) :: valued (value?.getD next + 1) others

/-- The number that decimal digits stand for. A zero that other digits follow would make them octal
ones. -/
def decimal? (digits : List Char) : Option Nat :=
  if digits ≠ [] ∧ digits.all Char.isDigit = true ∧ (digits.head? = some '0' → digits = ['0']) then
    some (Nat.ofDigitChars 10 digits 0)
  else none

/-- The name that a text is, alone or with a value after an equals sign between spaces. -/
def read? (text : List Char) : Option Enumerator :=
  match Text.pieces '=' text with
  | [name] => some ⟨String.ofList name, none⟩
  | [name, ' ' :: digits] =>
    if name.getLast? = some ' ' then
      (decimal? digits).map fun value => ⟨String.ofList name.dropLast, some value⟩
    else none
  | _ => none

/-- The names between the commas of a text, of which there are none in an empty one. -/
def readAll? (text : List Char) : Option (List Enumerator) :=
  if text = [] then some [] else (Text.pieces ',' text).mapM read?

/-- Whether a name can be told from what stands around it in an enumeration. -/
structure IsPlain (name : String) : Prop where
  /-- There is no comma. -/
  comma : ',' ∉ name.toList
  /-- There is no equals sign. -/
  equals : '=' ∉ name.toList
  /-- There is no line break. -/
  newline : '\n' ∉ name.toList

instance : DecidablePred IsPlain := fun name =>
  decidable_of_iff (',' ∉ name.toList ∧ '=' ∉ name.toList ∧ '\n' ∉ name.toList)
    ⟨fun ⟨comma, equals, newline⟩ => ⟨comma, equals, newline⟩,
      fun ⟨comma, equals, newline⟩ => ⟨comma, equals, newline⟩⟩

/-- The text of a name with its value. -/
def text (numbered : String × Nat) : String := numbered.1 ++ " = " ++ toString numbered.2

/-- The digits of a number are read as it. -/
theorem decimal?_toString (value : Nat) : decimal? (toString value).toList = some value := by
  have digits : (toString value).toList.all Char.isDigit = true :=
    List.all_eq_true.2 fun _ => isDigit_of_mem_toString
  rw [decimal?, if_pos ⟨toList_toString_ne_nil value, digits, toList_toString_of_zero⟩,
    ofDigitChars_toString]

/-- The digits of a number have no mark among them. -/
theorem not_mem_toString (value : Nat) {char : Char} (mark : char.isDigit = false) :
    char ∉ (toString value).toList := fun mem =>
  absurd (isDigit_of_mem_toString mem) (by simp [mark])

/-- The characters of a name with its value are those of the two around an equals sign. -/
theorem toList_text (name : String) (value : Nat) :
    (text (name, value)).toList = (name.toList ++ [' ']) ++ '=' :: ' ' :: (toString value).toList := by
  have middle : " = ".toList = [' ', '=', ' '] := rfl
  rw [text, String.toList_append, String.toList_append, middle, List.append_assoc,
    List.append_assoc]
  rfl

/-- The text of a name with its value is read as such. -/
theorem read?_text {name : String} (plain : IsPlain name) (value : Nat) :
    read? (text (name, value)).toList = some ⟨name, some value⟩ := by
  have before : Text.pieces '=' (name.toList ++ [' ']) = [name.toList ++ [' ']] :=
    Text.pieces_of_not_mem (by simp [plain.equals])
  have after : Text.pieces '=' (' ' :: (toString value).toList) =
      [' ' :: (toString value).toList] :=
    Text.pieces_of_not_mem (List.not_mem_cons_of_ne_of_not_mem (by decide)
      (not_mem_toString value rfl))
  rw [read?, toList_text, Text.pieces_append_cons, before, after]
  change (if _ then (decimal? (toString value).toList).map _ else none) = _
  rw [if_pos List.getLast?_concat, decimal?_toString]
  simp

/-- The text of a name with its value has no comma. -/
theorem comma_not_mem_text {name : String} (plain : IsPlain name) (value : Nat) :
    ',' ∉ (text (name, value)).toList := by
  have number := not_mem_toString value (rfl : ','.isDigit = false)
  simp only [toList_text, List.mem_append, List.mem_cons, List.not_mem_nil, or_false, not_or]
  exact ⟨⟨plain.comma, by decide⟩, by decide, by decide, number⟩

/-- Names are given their positions by C, written or not. -/
theorem valued_zipIdx (next : Nat) (names : List String) :
    valued next ((names.zipIdx next).map fun numbered => ⟨numbered.1, some numbered.2⟩) =
      valued next (names.map fun name => ⟨name, none⟩) := by
  induction names generalizing next with
  | nil => rfl
  | cons name names ih => simp [valued, ih]

end Enumerator

/-- Whether rows are a list of names with their positions between commas. -/
structure Enumeration.Lists (rows names : List String) : Prop where
  /-- There is a row for each name. -/
  length : rows.length = names.length
  /-- The text of the rows is cut at its commas into the names with their positions. -/
  pieces : names ≠ [] → Text.pieces ',' (String.join rows).toList =
    names.zipIdx.map fun numbered => (Enumerator.text numbered).toList
  /-- A comma ends each row but the last. -/
  separated : ∀ row ∈ rows.dropLast, row.toList.getLast? = some ','
  /-- The last row has no comma. -/
  ended : ∀ row ∈ rows.getLast?, ',' ∉ row.toList
  /-- The text of the rows is read as the names, with the values that C gives to them alone. -/
  read : ∃ enumerators, Enumerator.readAll? (String.join rows).toList = some enumerators ∧
    enumerators.map Enumerator.name = names ∧
    Enumerator.valued 0 enumerators = Enumerator.valued 0 (names.map fun name => ⟨name, none⟩)

namespace Enumeration

/-- The text of the last entry is a name with its value. -/
theorem entry_nil (position : Nat) (name : String) :
    entry position name [] = Enumerator.text (name, position) := by
  simp [entry, Enumerator.text]

/-- The text of an entry before others is a name with its value and a comma. -/
theorem entry_cons (position : Nat) (name next : String) (others : List String) :
    entry position name (next :: others) = Enumerator.text (name, position) ++ "," := by
  simp [entry, Enumerator.text]

/-- The entries are the names with their positions, and a comma after each whose position is not
the last one. -/
theorem entries_eq_map_zipIdx (position : Nat) (names : List String) :
    entries position names = (names.zipIdx position).map fun numbered =>
      Enumerator.text numbered ++ if numbered.2 = position + names.length - 1 then "" else "," := by
  induction names generalizing position with
  | nil => rfl
  | cons name others ih =>
    have last : position + 1 + others.length - 1 = position + (name :: others).length - 1 := by
      rw [List.length_cons]
      omega
    rw [entries, ih, last, List.zipIdx_cons, List.map_cons]
    congr 1
    cases others with
    | nil => simp [entry_nil]
    | cons next others => simp [entry_cons]

/-- There is an entry for each name. -/
theorem length_entries (position : Nat) (names : List String) :
    (entries position names).length = names.length := by
  simp [entries_eq_map_zipIdx]

/-- The entries in a row are the names with their values between commas. -/
theorem toList_join_entries (position : Nat) (names : List String) :
    (String.join (entries position names)).toList =
      [','].intercalate ((names.zipIdx position).map fun numbered =>
        (Enumerator.text numbered).toList) := by
  -- The comma that ends an entry stands between it and the entries after it.
  induction names generalizing position with
  | nil => rfl
  | cons name others ih =>
    have rest := ih (position + 1)
    rw [entries, String.join_cons, String.toList_append, rest, List.zipIdx_cons, List.map_cons]
    cases others with
    | nil => simp [entry_nil]
    | cons next others =>
      rw [entry_cons, List.zipIdx_cons, List.map_cons, List.intercalate_cons_cons,
        String.toList_append]
      rfl

/-- A comma ends each entry but the last. -/
theorem getLast?_of_mem_dropLast_entries (position : Nat) (names : List String) :
    ∀ row ∈ (entries position names).dropLast, row.toList.getLast? = some ',' := by
  induction names generalizing position with
  | nil => exact List.forall_mem_nil _
  | cons name others ih =>
    cases others with
    | nil => exact List.forall_mem_nil _
    | cons next others =>
      have rest := ih (position + 1)
      have more : entries (position + 1) (next :: others) ≠ [] := List.cons_ne_nil _ _
      rw [entries, List.dropLast_cons_of_ne_nil more, entry_cons]
      refine List.forall_mem_cons.2 ⟨?_, rest⟩
      rw [String.toList_append]
      exact List.getLast?_concat

/-- The last entry has no comma. -/
theorem comma_not_mem_getLast?_entries (position : Nat) {names : List String}
    (plain : ∀ name ∈ names, Enumerator.IsPlain name) :
    ∀ row ∈ (entries position names).getLast?, ',' ∉ row.toList := by
  induction names generalizing position with
  | nil => simp [entries]
  | cons name others ih =>
    obtain ⟨own, later⟩ := List.forall_mem_cons.1 plain
    cases others with
    | nil =>
      rintro _ ⟨rfl⟩
      rw [entry_nil]
      exact Enumerator.comma_not_mem_text own position
    | cons next others =>
      rw [entries, entries, List.getLast?_cons_cons]
      exact ih (position + 1) later

/-- The entries in a row are cut at their commas into the names with their positions. -/
theorem pieces_entries {names : List String}
    (plain : ∀ name ∈ names, Enumerator.IsPlain name) (filled : names ≠ []) :
    Text.pieces ',' (String.join (entries 0 names)).toList =
      names.zipIdx.map fun numbered => (Enumerator.text numbered).toList := by
  rw [toList_join_entries]
  apply Text.pieces_intercalate (by simpa using filled)
  intro piece mem
  obtain ⟨⟨name, value⟩, numbered, rfl⟩ := List.mem_map.1 mem
  exact Enumerator.comma_not_mem_text (plain name (List.fst_mem_of_mem_zipIdx numbered)) value

/-- Names in a row are read with their positions. -/
theorem mapM_read?_zipIdx (position : Nat) {names : List String}
    (plain : ∀ name ∈ names, Enumerator.IsPlain name) :
    ((names.zipIdx position).map fun numbered => (Enumerator.text numbered).toList).mapM
        Enumerator.read? =
      some ((names.zipIdx position).map fun numbered => ⟨numbered.1, some numbered.2⟩) := by
  induction names generalizing position with
  | nil => rfl
  | cons name others ih =>
    obtain ⟨own, later⟩ := List.forall_mem_cons.1 plain
    rw [List.zipIdx_cons, List.map_cons, List.map_cons, List.mapM_cons,
      Enumerator.read?_text own, ih (position + 1) later]
    rfl

/-- The text of plain names with their positions is read as the names with these. -/
theorem readAll?_entries {names : List String}
    (plain : ∀ name ∈ names, Enumerator.IsPlain name) :
    Enumerator.readAll? (String.join (entries 0 names)).toList =
      some (names.zipIdx.map fun numbered => ⟨numbered.1, some numbered.2⟩) := by
  cases names with
  | nil => rfl
  | cons name others =>
    have filled : (String.join (entries 0 (name :: others))).toList ≠ [] := by
      simp [entries, entry]
    rw [Enumerator.readAll?, if_neg filled, pieces_entries plain (List.cons_ne_nil _ _)]
    exact mapM_read?_zipIdx 0 plain

/-- The entries of plain names list them. -/
theorem lists_entries {names : List String} (plain : ∀ name ∈ names, Enumerator.IsPlain name) :
    Lists (entries 0 names) names where
  length := length_entries 0 names
  pieces := pieces_entries plain
  separated := getLast?_of_mem_dropLast_entries 0 names
  ended := comma_not_mem_getLast?_entries 0 plain
  read := by
    refine ⟨_, readAll?_entries plain, ?_, Enumerator.valued_zipIdx 0 names⟩
    rw [List.map_map]
    exact List.zipIdx_map_fst 0 names

/-- An entry is its name with a fixed text after it. -/
theorem entry_eq_append (position : Nat) (name : String) (others : List String) :
    ∃ rest, entry position name others = name ++ rest ∧ IsFixed rest ∧ rest.toList ≠ [] := by
  have comma : IsFixed (if others.isEmpty then "" else ",") := by split <;> decide
  have number := (show IsFixed " = " by decide).append (IsFixed.toString position)
  refine ⟨_, ?_, number.append comma, by simp⟩
  rw [entry, String.append_assoc, String.append_assoc, String.append_assoc]

/-- An entry breaks no line, and ends in no line break. -/
theorem unbroken_entry (position : Nat) {name : String} (plain : Enumerator.IsPlain name)
    (others : List String) :
    '\n' ∉ (entry position name others).toList ∧
      (entry position name others).toList.getLast? ≠ some '\r' := by
  obtain ⟨rest, shape, fixed, filled⟩ := entry_eq_append position name others
  have unbroken := fixed.isUnbroken
  -- A name may have carriage returns, but none can end the entry.
  rw [shape, String.toList_append, List.getLast?_append, List.getLast?_eq_some_getLast filled,
    Option.some_or, ← List.getLast?_eq_some_getLast filled]
  exact ⟨fun mem => (List.mem_append.1 mem).elim plain.newline unbroken.newline,
    unbroken.getLast?_ne⟩

/-- The lines of written entries are the entries with their margin. -/
theorem lines_shown_entries (position : Nat) {names : List String}
    (plain : ∀ name ∈ names, Enumerator.IsPlain name) (style : Indent) (level : Nat) :
    Text.lines (Page.shown style level ((entries position names).map .line)) =
      (entries position names).map fun row => (style.margin level).toList ++ row.toList := by
  induction names generalizing position with
  | nil => rw [entries, List.map_nil, Page.shown_nil]; rfl
  | cons name others ih =>
    obtain ⟨own, later⟩ := List.forall_mem_cons.1 plain
    obtain ⟨unbroken, uncut⟩ := unbroken_entry position own others
    rw [entries, List.map_cons, Page.lines_shown_line unbroken uncut, ih (position + 1) later,
      List.map_cons]

/-- The enumeration with a name that is built by some edits. -/
def built (name : String) (edits : List (Edit String String Empty)) : Enumeration :=
  Editable.run { name } (edits.map .ok)

/-- Edits keep the name of an enumeration and add their names to it. -/
theorem run_eq (enumeration : Enumeration) (edits : List (Edit String String Empty)) :
    (Editable.run enumeration (edits.map .ok)).name = enumeration.name ∧
      (Editable.run enumeration (edits.map .ok)).values =
        enumeration.values ++ Edit.added edits := by
  rw [extends_log.run_eq, Editable.log_map_ok]
  exact ⟨rfl, rfl⟩

/-- An enumeration is written as its entries, one level deeper, between two lines after its
comments. -/
theorem shown_eq (enumeration : Enumeration) (style : Indent) (level : Nat) :
    Page.shown style level (instructions enumeration) =
      Page.shown style level (instructions enumeration.comments) ++
        ((style.margin level ++ ("enum " ++ enumeration.name ++ " \x7b\n")).toList ++
          (Page.shown style (level + 1) ((entries 0 enumeration.values).map .line) ++
            (style.margin level ++ "\x7d;\n").toList)) := by
  have steps : instructions enumeration = instructions enumeration.comments ++
      .line ("enum " ++ enumeration.name ++ " \x7b") ::
        (Instruction.nested ((entries 0 enumeration.values).map .line) ++ [.line "\x7d;"]) :=
    List.append_assoc _ (_ :: Instruction.nested _) _
  rw [steps, Page.shown_append (isFlat_comments _), Page.shown_line,
    Page.shown_nested (Instruction.isFlat_lines _), Page.shown_line, Page.shown_nil]
  simp

/-- An enumeration that is built with plain names, one by one or several at once, is written as a
list of the names between its opening and its closing line: one line for each name, a level deeper,
where the names have their positions as values. -/
theorem lists_built (name : String) (edits : List (Edit String String Empty))
    (plain : ∀ value ∈ Edit.added edits, Enumerator.IsPlain value) :
    ∃ rows : List String, Lists rows (Edit.added edits) ∧ ∀ (style : Indent) (level : Nat),
      Page.shown style level (instructions (built name edits)) =
        Page.shown style level (instructions (built name edits).comments) ++
          ((style.margin level ++ ("enum " ++ name ++ " \x7b\n")).toList ++
            (Page.shown style (level + 1) (rows.map .line) ++
              (style.margin level ++ "\x7d;\n").toList)) ∧
      Text.lines (Page.shown style (level + 1) (rows.map .line)) =
        rows.map fun row => (style.margin (level + 1)).toList ++ row.toList := by
  obtain ⟨own, values⟩ := run_eq { name } edits
  refine ⟨entries 0 (Edit.added edits), lists_entries plain, fun style level => ⟨?_, ?_⟩⟩
  · have written := shown_eq (built name edits) style level
    rwa [built, own, values] at written
  · exact lines_shown_entries 0 plain style (level + 1)

/-- Edits of all kinds. -/
def colors : List (Edit String String Empty) :=
  [.add "RED", .comment "colors", .addAll ["GREEN", "RED"]]

/-- Names that are given in all ways, one of them twice, are listed in order. -/
theorem lists_built_color :
    (∀ value ∈ Edit.added colors, Enumerator.IsPlain value) ∧
    ∃ rows, Lists rows ["RED", "GREEN", "RED"] ∧
      Page.shown default 0 (instructions (built "Color" colors)) =
        "// colors\n".toList ++ ("enum Color \x7b\n".toList ++
          (Page.shown default 1 (rows.map .line) ++ "\x7d;\n".toList)) := by
  have plain : ∀ value ∈ Edit.added colors, Enumerator.IsPlain value := by decide
  obtain ⟨rows, lists, written⟩ := lists_built "Color" colors plain
  have comments : Page.shown default 0 (instructions (built "Color" colors).comments) =
      "// colors\n".toList := by decide
  have text := (written default 0).1
  rw [comments] at text
  exact ⟨plain, rows, lists, text⟩

end Enumeration

end CSource
