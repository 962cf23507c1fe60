import CSource.Item.Build
import CSource.Item.Layout
import CSource.Proofs.Expr.Spelled
import CSource.Proofs.Layout.Shown
import CSource.Proofs.Path.GuardName
import CSource.Proofs.Text.Lines

/-!
# Guards as the preprocessor reads them

A text is guarded by a macro where its first line asks whether the macro is defined and its second
line defines it (`Directive.guard?`). A macro is named by an identifier, but a guard is named after
a file, and files can be named otherwise: a guard name keeps a digit that the file name begins with,
and then it is the name of no macro (`Guard.guard?_shown_ofHeader`).
-/

namespace CSource

namespace Lexeme

/-- White space means nothing. -/
theorem scan_blank {char : Char} (blank : isBlank char = true) (rest : List Char) :
    scan (char :: rest) = scan rest := by
  have first_cut : cut char rest = (none, rest) := if_pos blank
  rw [scan_cons, first_cut]
  rfl

/-- A margin means nothing. -/
theorem scan_margin (style : Indent) (level : Nat) (rest : List Char) :
    scan ((style.margin level).toList ++ rest) = scan rest := by
  have blank : ∀ char ∈ (style.margin level).toList, isBlank char = true := fun char mem => by
    rcases Indent.mem_margin mem with rfl | rfl <;> rfl
  generalize (style.margin level).toList = margin at blank ⊢
  induction margin with
  | nil => rfl
  | cons char margin ih =>
    obtain ⟨first, others⟩ := List.forall_mem_cons.1 blank
    rw [List.cons_append, scan_blank first, ih others]

/-- A text that begins with a digit begins with a number. -/
theorem scan_digit {char : Char} (digit : char.isDigit = true) (rest : List Char) :
    ∃ text later, scan (char :: rest) = .number text :: later := by
  have unblank := isBlank_of_isWordChar (isWordChar_of_isDigit digit)
  refine ⟨String.ofList (char :: (numberTail char rest).1), scan (numberTail char rest).2, ?_⟩
  have first_cut : cut char rest =
      (some (.number (String.ofList (char :: (numberTail char rest).1))),
        (numberTail char rest).2) := by
    unfold cut
    simp [unblank, digit]
  rw [scan_cons, first_cut]
  rfl

end Lexeme

namespace Directive

/-- Names that no macro can have. -/
def reserved : List String := ["defined", "__VA_ARGS__"]

/-- The macro that a line names, if it is the directive of a keyword with a name and nothing
else. -/
def named? (keyword : String) (line : List Char) : Option String :=
  match Lexeme.scan line with
  | [mark, word, .word name] =>
    if mark = .mark "#" ∧ word = .word keyword ∧ name ∉ reserved then some name else none
  | _ => none

/-- The macro that a text is guarded by: the one that its first line asks for and its second line
defines. -/
def guard? (text : List Char) : Option String :=
  match Text.lines text with
  | first :: second :: _ => do
    let asked ← named? "ifndef" first
    let named ← named? "define" second
    if asked = named then some named else none
  | _ => none

/-- The line of a directive names its macro if the name is an identifier, and no macro otherwise. -/
theorem named?_line (keyword : String) (identifier : isIdentifier keyword = true) {name : String}
    (word : ∀ char ∈ name.toList, isWordChar char = true) (style : Indent) (level : Nat) :
    named? keyword ((style.margin level).toList ++ ("#" ++ keyword ++ " " ++ name).toList) =
      if isIdentifier name = true ∧ name ∉ reserved then some name else none := by
  have mark : Lexeme.IsMark "#" := by decide
  have opened := (((Lexeme.spelled_mark "#" mark).append (Lexeme.spelled_word keyword identifier)
    fun char start => Lexeme.IsNameStart.ends start "#").append Lexeme.spelled_space
      fun char space => space ▸ ⟨rfl, rfl⟩).cuts name.toList fun _ _ => trivial
  have scanned : Lexeme.scan ((style.margin level).toList ++
      ("#" ++ keyword ++ " " ++ name).toList) =
        .mark "#" :: .word keyword :: Lexeme.scan name.toList := by
    rw [Lexeme.scan_margin, String.toList_append, opened]
    rfl
  rw [named?, scanned]
  by_cases own : isIdentifier name = true
  · have single : Lexeme.scan name.toList = [.word name] := (Lexeme.spelled_word name own).ofText
    simp [single, own]
  · rw [if_neg fun both => own both.1]
    cases shape : name.toList with
    | nil => rw [Lexeme.scan_nil]
    | cons first others =>
      -- A word that is no identifier begins with a digit.
      rw [shape] at word
      obtain ⟨start, rest⟩ := List.forall_mem_cons.1 word
      have digit : first.isDigit = true := by
        unfold isIdentifier at own
        rw [shape] at own
        simpa [start, List.all_eq_true.2 rest] using own
      obtain ⟨text, later, number⟩ := Lexeme.scan_digit digit others
      rw [number]

end Directive

/-- Characters of guard names are characters of identifiers. -/
theorem IsGuardChar.isWordChar {char : Char} (kept : IsGuardChar char) :
    isWordChar char = true := by
  rcases kept with letter | digit | rfl
  · simp [CSource.isWordChar, isAlphanum_eq, isUpper_iff.2 letter]
  · exact Lexeme.isWordChar_of_isDigit (isDigit_iff.2 digit)
  · rfl

/-- Whether a piece begins with a digit. -/
def Piece.startsWithDigit (piece : Piece) : Bool := piece.text.toList.head?.any Char.isDigit

/-- A guard name is an identifier unless the file name begins with a digit. -/
theorem Path.isIdentifier_guardName {path : Path} {file : Piece}
    (named : path.fileName? = some file) :
    isIdentifier path.guardName = !file.startsWithDigit := by
  have word : ∀ char ∈ path.guardName.toList, isWordChar char = true := fun char mem =>
    (isGuardChar_of_mem_guardName mem).isWordChar
  rw [toList_guardName, guarded_eq named] at word
  unfold isIdentifier Piece.startsWithDigit
  rw [toList_guardName, guarded_eq named]
  cases shape : file.text.toList with
  | nil =>
    have empty : file = .empty := by
      obtain ⟨_, _⟩ := file
      simpa [Piece.empty] using String.toList_inj.1 shape
    exact absurd empty (isFileName_of_fileName? named).2.filled
  | cons first others =>
    rw [shape] at word
    obtain ⟨start, rest⟩ := List.forall_mem_cons.1 word
    simp [start, List.all_eq_true.2 rest, (becomes_guardChar first).isDigit_eq]

/-- A written guard is read as its name, if macros can be named so, and as no guard otherwise. -/
theorem Guard.guard?_shown {guard : Guard}
    (word : ∀ char ∈ guard.name.toList, isWordChar char = true) (style : Indent) (level : Nat) :
    Directive.guard? (Page.shown style level (instructions guard)) =
      if isIdentifier guard.name = true ∧ guard.name ∉ Directive.reserved then some guard.name
      else none := by
  have name : Text.IsUnbroken guard.name :=
    ⟨fun mem => absurd (word _ mem) (by decide), fun mem => absurd (word _ mem) (by decide)⟩
  have asked : Text.IsUnbroken ("#ifndef " ++ guard.name) := .append (by decide) name
  have defined : Text.IsUnbroken ("#define " ++ guard.name) := .append (by decide) name
  have steps : instructions guard = .line ("#ifndef " ++ guard.name) ::
      .line ("#define " ++ guard.name) :: (Item.layoutAll guard.body ++ [.line "#endif"]) := by
    obtain ⟨_, _⟩ := guard
    exact Guard.layout.eq_1 _ _
  have first : Directive.named? "ifndef"
      ((style.margin level).toList ++ ("#ifndef " ++ guard.name).toList) = _ :=
    Directive.named?_line "ifndef" rfl word style level
  have second : Directive.named? "define"
      ((style.margin level).toList ++ ("#define " ++ guard.name).toList) = _ :=
    Directive.named?_line "define" rfl word style level
  rw [Directive.guard?, steps, Page.lines_shown_line asked.newline asked.getLast?_ne,
    Page.lines_shown_line defined.newline defined.getLast?_ne]
  simp only [first, second]
  split <;> simp

/-- The guard name of a header is an identifier unless the file name begins with a digit. If it is,
the text of a part that is guarded so is guarded by the guard name, whatever stands in the part, but
for the one guard name that no macro can have; and otherwise it is guarded by no macro. -/
theorem Guard.guard?_shown_ofHeader {path : Path} {file : Piece}
    (named : path.fileName? = some file) :
    (∀ char ∈ path.guardName.toList, IsGuardChar char) ∧
    isIdentifier path.guardName = !file.startsWithDigit ∧
    ∀ (items : List Item) (style : Indent) (level : Nat),
      Directive.guard? (Page.shown style level (instructions ((ofHeader path).addItems items))) =
        if file.startsWithDigit = false ∧ path.guardName ≠ "__VA_ARGS__" then some path.guardName
        else none := by
  have kept : ∀ char ∈ path.guardName.toList, IsGuardChar char := fun _ mem =>
    Path.isGuardChar_of_mem_guardName mem
  have identifier := Path.isIdentifier_guardName named
  refine ⟨kept, identifier, fun items style level => ?_⟩
  have read : _ = if isIdentifier path.guardName = true ∧ path.guardName ∉ Directive.reserved
      then some path.guardName else none :=
    ((ofHeader path).addItems items).guard?_shown (fun char mem => (kept char mem).isWordChar)
      style level
  -- Of the names that no macro can have, one is written in small letters.
  have capital : path.guardName ≠ "defined" := fun same =>
    absurd (kept 'd' (by simp [same])) (by decide)
  rw [read, identifier]
  simp [Directive.reserved, capital]

/-- A header with a digit inside its file name is guarded by its guard name. -/
theorem Guard.guard?_shown_ofHeader_point :
    (Path.ofText "include/point-2d.h").fileName? = some ⟨"point-2d.h", by decide⟩ ∧
    Directive.guard? (Page.shown default 0 (instructions
      ((ofHeader (.ofText "include/point-2d.h")).addItems [.commentLine "points"]))) =
        some "POINT_2D_H" := by
  have named : (Path.ofText "include/point-2d.h").fileName? = some ⟨"point-2d.h", by decide⟩ := by
    decide
  have name : (Path.ofText "include/point-2d.h").guardName = "POINT_2D_H" := by decide
  refine ⟨named, ?_⟩
  rw [(guard?_shown_ofHeader named).2.2, name]
  decide

/-- The guard name of a header whose file name begins with a digit is no identifier, and the header
is guarded by no macro. -/
theorem Guard.not_isIdentifier_guardName_digit :
    (Path.ofText "2d.h").fileName? = some ⟨"2d.h", by decide⟩ ∧
    (Path.ofText "2d.h").guardName = "2D_H" ∧ isIdentifier "2D_H" = false ∧
    Directive.guard? (Page.shown default 0 (instructions (ofHeader (.ofText "2d.h")))) = none := by
  have name : (ofHeader (.ofText "2d.h")).name = "2D_H" := by decide
  have word : ∀ char ∈ (ofHeader (.ofText "2d.h")).name.toList, isWordChar char = true :=
    fun char mem => (Path.isGuardChar_of_mem_guardName mem).isWordChar
  refine ⟨by decide, name, by decide, ?_⟩
  rw [guard?_shown word, name]
  decide

end CSource
