import CSource.Path.Guard
import Mathlib.Data.List.Forall2

/-!
# Names of guards

A guard is named after the last piece of the path that leads somewhere, whatever stands before that
piece and however many separators and pieces that stay in place follow it. The name has a character
for each character of the piece (`Path.Becomes`), and capitals, digits and underscores only, so that
the guard of the name as a path is named the same (`Path.guardName_eq_of_file`).
-/

namespace CSource

/-- Small letters are those of ASCII. -/
theorem isLower_iff {char : Char} : char.isLower = true ↔ 'a' ≤ char ∧ char ≤ 'z' := by
  have shape : char.isLower = (decide ('a' ≤ char) && decide (char ≤ 'z')) := rfl
  rw [shape, Bool.and_eq_true, decide_eq_true_eq, decide_eq_true_eq]

/-- Capitals are those of ASCII. -/
theorem isUpper_iff {char : Char} : char.isUpper = true ↔ 'A' ≤ char ∧ char ≤ 'Z' := by
  have shape : char.isUpper = decide ('A' ≤ char ∧ char ≤ 'Z') := rfl
  rw [shape, decide_eq_true_eq]

/-- Digits are those of ASCII. -/
theorem isDigit_iff {char : Char} : char.isDigit = true ↔ '0' ≤ char ∧ char ≤ '9' := by
  have shape : char.isDigit = (decide ('0' ≤ char) && decide (char ≤ '9')) := rfl
  rw [shape, Bool.and_eq_true, decide_eq_true_eq, decide_eq_true_eq]

/-- Letters are capitals and small letters. -/
theorem isAlphanum_eq (char : Char) :
    char.isAlphanum = (char.isUpper || char.isLower || char.isDigit) := rfl

/-- The capital of a small letter stands thirty-two places before it. -/
theorem toNat_toUpper {char : Char} (small : 'a' ≤ char ∧ char ≤ 'z') :
    char.toUpper.toNat + 32 = char.toNat := by
  have shape : char.toUpper = ⟨char.val + ('A'.val - 'a'.val), _⟩ := dif_pos small
  have low : 97 ≤ char.val.toNat := small.1
  have high : char.val.toNat ≤ 122 := small.2
  -- The places are taken back by adding their complement, which wraps around.
  have complement : ('A'.val - 'a'.val).toNat = 4294967264 := rfl
  rw [shape]
  change (char.val + ('A'.val - 'a'.val)).toNat + 32 = char.val.toNat
  rw [UInt32.toNat_add]
  omega

/-- Whether a character can stand in the name of a guard. -/
def IsGuardChar (char : Char) : Prop :=
  'A' ≤ char ∧ char ≤ 'Z' ∨ '0' ≤ char ∧ char ≤ '9' ∨ char = '_'

instance : DecidablePred IsGuardChar := fun _ => inferInstanceAs (Decidable (_ ∨ _))

/-- What a file can be named: a piece that leads somewhere, and not up. -/
structure Piece.IsFileName (piece : Piece) : Prop where
  /-- A file name has a character. -/
  filled : piece ≠ .empty
  /-- A file name does not stay in place. -/
  leads : piece ≠ .here
  /-- A file name does not go up. -/
  enters : piece ≠ .up

instance : DecidablePred Piece.IsFileName := fun piece =>
  decidable_of_iff (piece ≠ .empty ∧ piece ≠ .here ∧ piece ≠ .up)
    ⟨fun ⟨filled, leads, enters⟩ => ⟨filled, leads, enters⟩,
      fun named => ⟨named.filled, named.leads, named.enters⟩⟩

namespace Path

/-- What a character becomes in the name of a guard. -/
inductive Becomes : Char → Char → Prop where
  /-- A small letter becomes its capital. -/
  | small {char capital : Char} (letter : 'a' ≤ char ∧ char ≤ 'z')
      (places : capital.toNat + 32 = char.toNat) : Becomes char capital
  /-- A capital is kept. -/
  | capital {char : Char} (letter : 'A' ≤ char ∧ char ≤ 'Z') : Becomes char char
  /-- A digit is kept. -/
  | digit {char : Char} (digit : '0' ≤ char ∧ char ≤ '9') : Becomes char char
  /-- Any other character becomes an underscore. -/
  | other {char : Char} (small : ¬ ('a' ≤ char ∧ char ≤ 'z'))
      (capital : ¬ ('A' ≤ char ∧ char ≤ 'Z')) (digit : ¬ ('0' ≤ char ∧ char ≤ '9')) :
      Becomes char '_'

/-- A character of a guard name is what the character of the path becomes. -/
theorem becomes_guardChar (char : Char) : Becomes char (guardChar char) := by
  rw [guardChar, isAlphanum_eq]
  by_cases small : 'a' ≤ char ∧ char ≤ 'z'
  · rw [isLower_iff.2 small, Bool.or_true, Bool.true_or, if_pos rfl]
    exact .small small (toNat_toUpper small)
  · have kept : char.toUpper = char := dif_neg small
    rw [kept, Bool.eq_false_iff.2 (mt isLower_iff.1 small), Bool.or_false]
    by_cases capital : 'A' ≤ char ∧ char ≤ 'Z'
    · rw [isUpper_iff.2 capital, Bool.true_or, if_pos rfl]
      exact .capital capital
    · rw [Bool.eq_false_iff.2 (mt isUpper_iff.1 capital), Bool.false_or]
      by_cases digit : '0' ≤ char ∧ char ≤ '9'
      · rw [isDigit_iff.2 digit, if_pos rfl]
        exact .digit digit
      · rw [Bool.eq_false_iff.2 (mt isDigit_iff.1 digit), if_neg Bool.false_ne_true]
        exact .other small capital digit

namespace Becomes

variable {char image : Char}

/-- What a character becomes can stand in the name of a guard. -/
theorem isGuardChar (becomes : Becomes char image) : IsGuardChar image := by
  cases becomes with
  | small letter places =>
    have low : 97 ≤ char.toNat := letter.1
    have high : char.toNat ≤ 122 := letter.2
    have first : 65 ≤ image.toNat := by omega
    have last : image.toNat ≤ 90 := by omega
    exact .inl ⟨first, last⟩
  | capital letter => exact .inl letter
  | digit digit => exact .inr (.inl digit)
  | other => exact .inr (.inr rfl)

/-- What can stand in the name of a guard is kept there. -/
theorem eq_of_isGuardChar (becomes : Becomes char image) (kept : IsGuardChar char) :
    image = char := by
  cases becomes with
  | small letter places =>
    have low : 97 ≤ char.toNat := letter.1
    rcases kept with ⟨_, last⟩ | ⟨_, last⟩ | rfl
    · have high : char.toNat ≤ 90 := last
      omega
    · have high : char.toNat ≤ 57 := last
      omega
    · contradiction
  | capital | digit => rfl
  | other _ capital digit =>
    rcases kept with letter | number | rfl
    · exact absurd letter capital
    · exact absurd number digit
    · rfl

/-- Digits become digits, and nothing else does. -/
theorem isDigit_eq (becomes : Becomes char image) : image.isDigit = char.isDigit := by
  cases becomes with
  | small letter places =>
    have low : 97 ≤ char.toNat := letter.1
    have high : char.toNat ≤ 122 := letter.2
    have first : ¬ image.isDigit = true := fun digit => by
      have last : image.toNat ≤ 57 := (isDigit_iff.1 digit).2
      omega
    have second : ¬ char.isDigit = true := fun digit => by
      have last : char.toNat ≤ 57 := (isDigit_iff.1 digit).2
      omega
    rw [Bool.eq_false_iff.2 first, Bool.eq_false_iff.2 second]
  | capital | digit => rfl
  | other _ _ digit => exact (Bool.eq_false_iff.2 (mt isDigit_iff.1 digit)).symm

end Becomes

/-- Pieces are known by their characters. -/
theorem pieces_inj {left right : List Piece}
    (same : left.map (fun piece => piece.text.toList) = right.map fun piece => piece.text.toList) :
    left = right := by
  refine (List.map_inj_right fun one other equal => ?_).1 same
  obtain ⟨_, _⟩ := one
  obtain ⟨_, _⟩ := other
  simpa [String.toList_inj] using equal

/-- A separator divides the pieces of the text before it from those of the text after it. -/
theorem pieces_ofText_append (left right : String) :
    (ofText (left ++ "/" ++ right)).pieces = (ofText left).pieces ++ (ofText right).pieces := by
  have cut (text : String) : (ofText text).pieces.map (fun piece => piece.text.toList) =
      Text.pieces '/' text.toList := piecesOfText_toList text
  apply pieces_inj
  rw [List.map_append, cut, cut, cut, ← Text.pieces_append_cons]
  simp

/-- A text without a separator is the path of one piece. -/
theorem pieces_ofText (piece : Piece) : (ofText piece.text).pieces = [piece] := by
  apply pieces_inj
  rw [ofText, piecesOfText_toList, Text.pieces_of_not_mem piece.separated]
  rfl

/-- A piece is followed by pieces that lead nowhere where separators follow it, alone or before the
piece that stays in place. -/
theorem pieces_ofText_join (piece : Piece) {tail : List String}
    (idle : ∀ part ∈ tail, part = "/" ∨ part = "/.") :
    ∃ pieces, (ofText (piece.text ++ String.join tail)).pieces = piece :: pieces ∧
      ∀ piece ∈ pieces, piece.isIdle = true := by
  -- Each part of the tail ends a piece and begins another one, which the induction is about.
  induction tail generalizing piece with
  | nil => exact ⟨[], by rw [String.join_nil, String.append_empty, pieces_ofText], by simp⟩
  | cons part tail ih =>
    obtain ⟨first, others⟩ := List.forall_mem_cons.1 idle
    have begun (next : Piece) (leads : next.isIdle = true) (shape : part = "/" ++ next.text) :
        ∃ pieces, (ofText (piece.text ++ String.join (part :: tail))).pieces = piece :: pieces ∧
          ∀ piece ∈ pieces, piece.isIdle = true := by
      obtain ⟨pieces, rest, all⟩ := ih next others
      have text : piece.text ++ String.join (part :: tail) =
          piece.text ++ "/" ++ (next.text ++ String.join tail) := by
        rw [String.join_cons, shape]
        simp only [String.append_assoc]
      refine ⟨next :: pieces, ?_, List.forall_mem_cons.2 ⟨leads, all⟩⟩
      rw [text, pieces_ofText_append, pieces_ofText, rest]
      rfl
    rcases first with rfl | rfl
    · exact begun .empty rfl rfl
    · exact begun .here rfl rfl

/-- The file name is the last piece that leads somewhere. -/
theorem fileName?_eq {path : Path} {before after : List Piece} {file : Piece}
    (pieces : path.pieces = before ++ file :: after) (named : file.IsFileName)
    (idle : ∀ piece ∈ after, piece.isIdle = true) :
    path.fileName? = some file := by
  have leads : file.isIdle = false := by simp [Piece.isIdle, named.filled, named.leads]
  have last : (path.pieces.filter fun piece => !piece.isIdle).getLast? = some file := by
    have none : after.filter (fun piece => !piece.isIdle) = [] := by simpa using idle
    rw [pieces, List.filter_append, List.filter_cons_of_pos (by simp [leads]), none,
      List.getLast?_concat]
  rw [fileName?, last]
  exact if_neg named.enters

/-- The file name of a path is one of its pieces, and can name a file. -/
theorem isFileName_of_fileName? {path : Path} {file : Piece}
    (named : path.fileName? = some file) : file ∈ path.pieces ∧ file.IsFileName := by
  rw [fileName?] at named
  cases last : (path.pieces.filter fun piece => !piece.isIdle).getLast? with
  | none => simp [last] at named
  | some piece =>
    rw [last] at named
    have notUp : piece ≠ .up := fun up => by simp [up] at named
    obtain rfl : piece = file := Option.some.inj ((if_neg notUp).symm.trans named)
    obtain ⟨mem, leads⟩ := List.mem_filter.1 (List.mem_of_getLast? last)
    have filled : piece ≠ .empty ∧ piece ≠ .here := by simpa [Piece.isIdle] using leads
    exact ⟨mem, filled.1, filled.2, notUp⟩

/-- The characters of a guard name are those that its text becomes. -/
theorem toList_guardName (path : Path) :
    path.guardName.toList = path.guarded.toList.map guardChar := by
  rw [guardName, String.toList_ofList]

/-- A path with a file name is guarded by it. -/
theorem guarded_eq {path : Path} {file : Piece} (named : path.fileName? = some file) :
    path.guarded = file.text := by
  rw [guarded, named]

/-- A path of one piece is guarded by it, whether it is a file name or not. -/
theorem guarded_ofText (piece : Piece) : (ofText piece.text).guarded = piece.text := by
  cases named : (ofText piece.text).fileName? with
  | none => rw [guarded, named, text_ofText]
  | some file =>
    obtain ⟨mem, _⟩ := isFileName_of_fileName? named
    obtain rfl : file = piece := by simpa [pieces_ofText] using mem
    exact guarded_eq named

/-- Paths guarded by one text have one guard name. -/
theorem guardName_congr {left right : Path} (same : left.guarded = right.guarded) :
    left.guardName = right.guardName := by
  rw [guardName, same, guardName]

/-- A guard name has what each character of its text becomes. -/
theorem becomes_guardName (path : Path) :
    List.Forall₂ Becomes path.guarded.toList path.guardName.toList := by
  rw [toList_guardName, List.forall₂_map_right_iff, List.forall₂_same]
  exact fun char _ => becomes_guardChar char

/-- A guard name has capitals, digits and underscores only. -/
theorem isGuardChar_of_mem_guardName {path : Path} {char : Char}
    (mem : char ∈ path.guardName.toList) : IsGuardChar char := by
  rw [toList_guardName] at mem
  obtain ⟨source, _, rfl⟩ := List.mem_map.1 mem
  exact (becomes_guardChar source).isGuardChar

/-- A guard name, as a path, is guarded by its own name. -/
theorem guardName_guardName (path : Path) : (ofText path.guardName).guardName = path.guardName := by
  -- A separator is no guard character, so that the name is a path of one piece.
  have separated : '/' ∉ path.guardName.toList := fun mem =>
    absurd (isGuardChar_of_mem_guardName mem) (by decide)
  have guarded : (ofText path.guardName).guarded = path.guardName :=
    guarded_ofText ⟨path.guardName, separated⟩
  have kept : ∀ char ∈ path.guardName.toList, guardChar char = id char := fun char mem =>
    (becomes_guardChar char).eq_of_isGuardChar (isGuardChar_of_mem_guardName mem)
  apply String.toList_inj.1
  rw [toList_guardName, guarded, List.map_congr_left kept, List.map_id]

/-- The guard name of a file is that of its name. -/
theorem guardName_ofText_file {file : Piece} (named : file.IsFileName) (directory : String)
    {tail : List String} (idle : ∀ part ∈ tail, part = "/" ∨ part = "/.") :
    (ofText (directory ++ "/" ++ (file.text ++ String.join tail))).guardName =
      (ofText file.text).guardName := by
  obtain ⟨after, pieces, rest⟩ := pieces_ofText_join file idle
  apply guardName_congr
  rw [guarded_ofText]
  apply guarded_eq
  apply fileName?_eq _ named rest
  · exact (ofText directory).pieces
  · rw [pieces_ofText_append, pieces]

/-- A guard is named after the file only: a path to the file has the guard name of the file name
alone, also where separators, or pieces that stay in place, follow it; the name has what each
character of the file name becomes. Whatever the path is, with a file name or without, its guard
name has capitals, digits and underscores only, and is the guard name of itself. -/
theorem guardName_eq_of_file :
    (∀ file : Piece, file.IsFileName → ∀ (directory : String) (tail : List String),
      (∀ part ∈ tail, part = "/" ∨ part = "/.") →
        (ofText (directory ++ "/" ++ file.text)).guardName = (ofText file.text).guardName ∧
        (ofText (directory ++ "/" ++ file.text ++ String.join tail)).guardName =
          (ofText file.text).guardName ∧
        List.Forall₂ Becomes file.text.toList (ofText file.text).guardName.toList) ∧
    ∀ text : String, (∀ char ∈ (ofText text).guardName.toList, IsGuardChar char) ∧
      (ofText (ofText text).guardName).guardName = (ofText text).guardName := by
  constructor
  · intro file named directory tail idle
    refine ⟨?_, ?_, ?_⟩
    · simpa using guardName_ofText_file named directory (by simp : ∀ part ∈ ([] : List String), _)
    · rw [String.append_assoc]
      exact guardName_ofText_file named directory idle
    · have becomes := becomes_guardName (ofText file.text)
      rwa [guarded_ofText] at becomes
  · exact fun text => ⟨fun char mem => isGuardChar_of_mem_guardName mem, guardName_guardName _⟩

/-- A header in a directory, and the path that stays in it, are guarded by the name of its file. -/
theorem guardName_eq_of_file_header :
    (ofText "a/../include/point-2d.h").guardName = "POINT_2D_H" ∧
    (ofText "a/../include/point-2d.h//./").guardName = "POINT_2D_H" ∧
    (ofText "POINT_2D_H").guardName = "POINT_2D_H" := by
  have header : (ofText "point-2d.h").guardName = "POINT_2D_H" := by decide
  have named : Piece.IsFileName ⟨"point-2d.h", by decide⟩ := by decide
  obtain ⟨inside, followed, _⟩ :=
    guardName_eq_of_file.1 _ named "a/../include" ["/", "/.", "/"] (by decide)
  have again := (guardName_eq_of_file.2 "point-2d.h").2
  rw [header] at inside followed again
  exact ⟨inside, followed, again⟩

end Path
end CSource
