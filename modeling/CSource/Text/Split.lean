/-!
# Cutting text

A text is cut into the pieces between a separator, or into lines. Cutting at a separator and
joining with it undo each other (`intercalate_pieces`, `pieces_intercalate`). Lines end at a
newline, taken together with one carriage return right before it; the end of the text ends a
last line only when that line is not empty.
-/

namespace CSource.Text

/-- The pieces of a text around each occurrence of a separator; a text without one is one piece. -/
def pieces (separator : Char) : List Char → List (List Char)
  | [] => [[]]
  | char :: rest =>
    if char = separator then [] :: pieces separator rest
    else
      match pieces separator rest with
      | [] => [[char]]
      | piece :: others => (char :: piece) :: others

/-- Every text has a piece. -/
theorem pieces_ne_nil (separator : Char) (text : List Char) : pieces separator text ≠ [] := by
  cases text with
  | nil => simp [pieces]
  | cons char rest =>
    unfold pieces
    split
    · simp
    · split <;> simp

/-- No piece holds the separator. -/
theorem separator_not_mem_pieces (separator : Char) (text piece : List Char)
    (mem : piece ∈ pieces separator text) : separator ∉ piece := by
  induction text generalizing piece with
  | nil => simp_all [pieces]
  | cons char rest ih =>
    unfold pieces at mem
    split at mem
    · rcases List.mem_cons.1 mem with rfl | mem
      · simp
      · exact ih piece mem
    · rename_i differs
      split at mem
      · rename_i absent
        exact absurd absent (pieces_ne_nil separator rest)
      · rename_i first others found
        rcases List.mem_cons.1 mem with rfl | mem
        · have := ih first (by simp [found])
          simp [this, Ne.symm differs]
        · exact ih piece (by simp [found, mem])

/-- The pieces of a text, joined by the separator, are the text. -/
theorem intercalate_pieces (separator : Char) (text : List Char) :
    [separator].intercalate (pieces separator text) = text := by
  induction text with
  | nil => simp [pieces]
  | cons char rest ih =>
    unfold pieces
    split
    · rename_i same
      cases found : pieces separator rest with
      | nil => exact absurd found (pieces_ne_nil separator rest)
      | cons first others =>
        rw [found] at ih
        rw [List.intercalate_cons_cons, ih, same]
        simp
    · split
      · rename_i absent
        exact absurd absent (pieces_ne_nil separator rest)
      · rename_i first others found
        rw [found] at ih
        cases others with
        | nil => simpa using ih
        | cons second others =>
          rw [List.intercalate_cons_cons] at ih ⊢
          simpa using ih

/-- A text without the separator is one piece. -/
theorem pieces_of_not_mem {separator : Char} {text : List Char} (free : separator ∉ text) :
    pieces separator text = [text] := by
  induction text with
  | nil => rfl
  | cons char rest ih =>
    rw [List.mem_cons, not_or] at free
    rw [pieces, if_neg (Ne.symm free.1), ih free.2]

/-- A separator divides the pieces before it from those after it. -/
theorem pieces_append_cons (separator : Char) (left right : List Char) :
    pieces separator (left ++ separator :: right)
      = pieces separator left ++ pieces separator right := by
  induction left with
  | nil => simp [pieces]
  | cons char left ih =>
    rw [List.cons_append, pieces, pieces, ih]
    split
    · rfl
    · cases found : pieces separator left with
      | nil => exact absurd found (pieces_ne_nil separator left)
      | cons first others => rfl

/-- Pieces that hold no separator are read back from the text that joins them. -/
theorem pieces_intercalate {separator : Char} {parts : List (List Char)} (nonempty : parts ≠ [])
    (free : ∀ part ∈ parts, separator ∉ part) :
    pieces separator ([separator].intercalate parts) = parts := by
  induction parts with
  | nil => exact absurd rfl nonempty
  | cons part parts ih =>
    cases parts with
    | nil => simpa using pieces_of_not_mem (free part (by simp))
    | cons next parts =>
      have rest := ih (by simp) fun part mem => free part (List.mem_cons_of_mem _ mem)
      rw [List.intercalate_cons_cons, List.append_assoc, List.singleton_append,
        pieces_append_cons, rest, pieces_of_not_mem (free part (by simp)),
        List.singleton_append]

/-- The lines of a text, without the newline, or carriage return and newline, that ends each. -/
def lines : List Char → List (List Char)
  | [] => []
  | '\n' :: rest => [] :: lines rest
  | '\r' :: '\n' :: rest => [] :: lines rest
  | char :: rest =>
    match lines rest with
    | [] => [[char]]
    | line :: others => (char :: line) :: others

end CSource.Text
