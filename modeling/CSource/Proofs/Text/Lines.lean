import CSource.Text.Split

/-!
# Lines of texts

Cutting a text into lines leaves no newline in a line and adds no character
(`newline_not_mem_lines`, `subset_of_mem_lines`). In the other direction, lines that are each ended
by a newline are found again as they are, empty ones among them, unless one has a newline itself or
ends in a carriage return (`lines_flatMap`). Unbroken texts, which have neither character, are safe
wherever they stand in a line.
-/

namespace CSource.Text

/-- The lines of a text are made of its characters. -/
theorem subset_of_mem_lines (chars : List Char) : ∀ line ∈ lines chars, line ⊆ chars := by
  fun_induction lines chars with
  | case1 => exact List.forall_mem_nil _
  | case2 rest ih =>
    have others := fun line mem => List.subset_cons_of_subset '\n' (ih line mem)
    exact List.forall_mem_cons.2 ⟨List.nil_subset _, others⟩
  | case3 rest ih =>
    have others := fun line mem =>
      List.subset_cons_of_subset '\r' (List.subset_cons_of_subset '\n' (ih line mem))
    exact List.forall_mem_cons.2 ⟨List.nil_subset _, others⟩
  | case4 char rest =>
    exact List.forall_mem_singleton.2 (List.cons_subset_cons char (List.nil_subset rest))
  | case5 char rest _ _ line others found ih =>
    rw [found] at ih
    obtain ⟨first, later⟩ := List.forall_mem_cons.1 ih
    have rest := fun line mem => List.subset_cons_of_subset char (later line mem)
    exact List.forall_mem_cons.2 ⟨List.cons_subset_cons char first, rest⟩

/-- No line of a text has a newline. -/
theorem newline_not_mem_lines (chars : List Char) : ∀ line ∈ lines chars, '\n' ∉ line := by
  fun_induction lines chars with
  | case1 => exact List.forall_mem_nil _
  | case2 rest ih => exact List.forall_mem_cons.2 ⟨List.not_mem_nil, ih⟩
  | case3 rest ih => exact List.forall_mem_cons.2 ⟨List.not_mem_nil, ih⟩
  | case4 char rest other _ _ _ =>
    exact List.forall_mem_singleton.2 (mt List.mem_singleton.1 fun same => other same.symm)
  | case5 char rest other _ line others found ih =>
    rw [found] at ih
    obtain ⟨first, later⟩ := List.forall_mem_cons.1 ih
    refine List.forall_mem_cons.2 ⟨fun mem => ?_, later⟩
    rcases List.mem_cons.1 mem with same | mem
    · exact other same.symm
    · exact first mem

/-- The first line of a text ends at a newline after it. -/
theorem lines_append_cons {line : List Char} (unbroken : '\n' ∉ line)
    (uncut : line.getLast? ≠ some '\r') (rest : List Char) :
    lines (line ++ '\n' :: rest) = line :: lines rest := by
  induction line with
  | nil => rfl
  | cons char line ih =>
    obtain ⟨other, later⟩ := not_or.1 (mt List.mem_cons.2 unbroken)
    have apart : ∀ after, char = '\r' → line ++ '\n' :: rest = '\n' :: after → False := by
      rintro after rfl shape
      cases line with
      | nil => exact uncut rfl
      | cons next line =>
        obtain rfl := (List.cons.inj shape).1
        exact later List.mem_cons_self
    have ends : line.getLast? ≠ some '\r' := by
      cases line with
      | nil => simp
      | cons next line => rwa [List.getLast?_cons_cons] at uncut
    rw [List.cons_append, lines.eq_4 _ _ (Ne.symm other) apart, ih later ends]

/-- Lines that are each ended by a newline are the lines of the text that they make. -/
theorem lines_flatMap {parts : List (List Char)} (unbroken : ∀ part ∈ parts, '\n' ∉ part)
    (uncut : ∀ part ∈ parts, part.getLast? ≠ some '\r') :
    lines (parts.flatMap (· ++ ['\n'])) = parts := by
  induction parts with
  | nil => rfl
  | cons part parts ih =>
    obtain ⟨own, others⟩ := List.forall_mem_cons.1 unbroken
    obtain ⟨ends, later⟩ := List.forall_mem_cons.1 uncut
    rw [List.flatMap_cons, List.append_assoc, List.singleton_append, lines_append_cons own ends,
      ih others later]

/-- Whether a text has neither a newline nor a carriage return. -/
structure IsUnbroken (text : String) : Prop where
  /-- There is no newline. -/
  newline : '\n' ∉ text.toList
  /-- There is no carriage return. -/
  carriage : '\r' ∉ text.toList

instance (text : String) : Decidable (IsUnbroken text) :=
  decidable_of_iff ('\n' ∉ text.toList ∧ '\r' ∉ text.toList)
    ⟨fun ⟨newline, carriage⟩ => ⟨newline, carriage⟩,
      fun ⟨newline, carriage⟩ => ⟨newline, carriage⟩⟩

/-- An unbroken text does not end in a carriage return. -/
theorem IsUnbroken.getLast?_ne {text : String} (unbroken : IsUnbroken text) :
    text.toList.getLast? ≠ some '\r' := fun last =>
  unbroken.carriage (List.mem_of_getLast? last)

/-- Unbroken texts in a row are unbroken. -/
theorem IsUnbroken.append {left right : String} (first : IsUnbroken left)
    (second : IsUnbroken right) : IsUnbroken (left ++ right) :=
  ⟨by simp [first.newline, second.newline], by simp [first.carriage, second.carriage]⟩

/-- Whether a text is one line wherever it is cut: it is unbroken and not empty. -/
structure IsUncut (text : String) : Prop where
  /-- There is a character. -/
  filled : text ≠ ""
  /-- There is no line break. -/
  unbroken : IsUnbroken text

instance (text : String) : Decidable (IsUncut text) :=
  decidable_of_iff (text ≠ "" ∧ IsUnbroken text)
    ⟨fun ⟨filled, unbroken⟩ => ⟨filled, unbroken⟩, fun ⟨filled, unbroken⟩ => ⟨filled, unbroken⟩⟩

/-- One line with an unbroken text after it is one line. -/
theorem IsUncut.append {left right : String} (first : IsUncut left) (second : IsUnbroken right) :
    IsUncut (left ++ right) :=
  ⟨by simp [first.filled], first.unbroken.append second⟩

/-- An unbroken text with one line after it is one line. -/
theorem IsUnbroken.append_uncut {left right : String} (first : IsUnbroken left)
    (second : IsUncut right) : IsUncut (left ++ right) :=
  ⟨by simp [second.filled], first.append second.unbroken⟩

end CSource.Text
