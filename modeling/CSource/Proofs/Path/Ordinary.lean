import CSource.Disk.Reach
import CSource.Proofs.Path.Downward

/-!
# Paths of ordinary names

Names that a directory takes, with a separator between them and perhaps one at the end, are a path
that can be asked for, unless it is too long. The paths above it are its names with fewer and fewer
of them, down to none (`Path.IsSpelledBy.parents_eq`).
-/

namespace CSource

/-- What is in pieces with a separator between them is the separator or in one of the pieces. -/
theorem Text.mem_of_mem_intercalate {char separator : Char} {parts : List (List Char)}
    (mem : char ∈ [separator].intercalate parts) :
    char = separator ∨ ∃ part ∈ parts, char ∈ part := by
  induction parts with
  | nil => exact absurd mem List.not_mem_nil
  | cons part parts recurse =>
    cases parts with
    | nil => exact .inr ⟨part, List.mem_cons_self, by simpa using mem⟩
    | cons next parts =>
      rw [List.intercalate_cons_cons, List.append_assoc, List.mem_append, List.singleton_append,
        List.mem_cons] at mem
      rcases mem with own | same | later
      · exact .inr ⟨part, List.mem_cons_self, own⟩
      · exact .inl same
      · rcases recurse later with same | ⟨other, present, inside⟩
        · exact .inl same
        · exact .inr ⟨other, List.mem_cons_of_mem _ present, inside⟩

/-- Whether a piece is a name that a directory takes. -/
structure Piece.IsOrdinary (piece : Piece) : Prop where
  /-- The piece leads somewhere. -/
  leads : piece.isIdle = false
  /-- It does not lead up. -/
  notUp : piece ≠ .up
  /-- The name is not too long. -/
  fits : piece.fits
  /-- No character of it has code zero. -/
  noZero : '\x00' ∉ piece.text.toList

instance (piece : Piece) : Decidable piece.IsOrdinary :=
  decidable_of_iff (piece.isIdle = false ∧ piece ≠ .up ∧ piece.fits ∧ '\x00' ∉ piece.text.toList)
    ⟨fun ⟨leads, notUp, fits, noZero⟩ => ⟨leads, notUp, fits, noZero⟩,
      fun ⟨leads, notUp, fits, noZero⟩ => ⟨leads, notUp, fits, noZero⟩⟩

/-- An ordinary name has characters. -/
theorem Piece.IsOrdinary.text_ne {piece : Piece} (ordinary : piece.IsOrdinary) :
    piece.text ≠ "" := by
  intro absent
  have idle : piece = .empty := by
    obtain ⟨text, _⟩ := piece
    subst absent
    rfl
  have leads := ordinary.leads
  simp [Piece.isIdle, idle] at leads

/-- Ordinary names are all the names among themselves. -/
theorem Piece.names_of_isOrdinary {names : List Piece}
    (ordinary : ∀ piece ∈ names, piece.IsOrdinary) : Piece.names names = names.map Piece.text := by
  induction names with
  | nil => rfl
  | cons piece names recurse =>
    obtain ⟨own, others⟩ := List.forall_mem_cons.1 ordinary
    rw [Piece.names_cons_name own.leads, recurse others, List.map_cons]

namespace Path

/-- Whether a path ends in a separator. -/
def endsInSeparator (path : Path) : Bool := path.pieces.getLast? = some .empty

/-- The pieces of a path but for a separator at its end. -/
def stem (path : Path) : List Piece :=
  if path.endsInSeparator then path.pieces.dropLast else path.pieces

/-- Whether a path is made of ordinary names, with or without a separator at its end, and not too
long. Nothing but what is on a disk then decides what becomes of it. -/
structure IsOrdinary (path : Path) : Prop where
  /-- There is a name. -/
  named : path.stem ≠ []
  /-- There are only ordinary names. -/
  names : ∀ piece ∈ path.stem, piece.IsOrdinary
  /-- The path is not too long. -/
  short : path.text.utf8ByteSize ≤ limit

instance (path : Path) : Decidable path.IsOrdinary :=
  decidable_of_iff (path.stem ≠ [] ∧ (∀ piece ∈ path.stem, piece.IsOrdinary) ∧
      path.text.utf8ByteSize ≤ limit)
    ⟨fun ⟨named, names, short⟩ => ⟨named, names, short⟩,
      fun ⟨named, names, short⟩ => ⟨named, names, short⟩⟩

/-- Whether a path is spelled by some ordinary names, with or without a separator at its end. The
empty path is spelled by none. -/
structure IsSpelledBy (path : Path) (names : List Piece) : Prop where
  /-- The names are ordinary. -/
  ordinary : ∀ piece ∈ names, piece.IsOrdinary
  /-- The pieces of the path are the names, but for a separator at the end. -/
  pieces_eq : path.pieces = names ∨ path.pieces = names ++ [.empty]

/-- The path with some pieces has these, if there are any. -/
theorem pieces_ofPieces {pieces : List Piece} (some : pieces ≠ []) :
    (ofPieces pieces).pieces = pieces := by
  obtain ⟨first, others, rfl⟩ := List.exists_cons_of_ne_nil some
  rfl

/-- Names spell the path with these pieces. -/
theorem isSpelledBy_ofPieces {names : List Piece} (ordinary : ∀ piece ∈ names, piece.IsOrdinary) :
    (ofPieces names).IsSpelledBy names :=
  ⟨ordinary, by cases names <;> simp [ofPieces]⟩

/-- The pieces of a path are its stem and perhaps the separator at its end. -/
theorem pieces_eq_stem_append (path : Path) :
    path.pieces = path.stem ++ if path.endsInSeparator then [.empty] else [] := by
  unfold stem
  split
  · rename_i ends
    have last : path.pieces.getLast path.pieces_ne_nil = .empty := by
      simpa [endsInSeparator, List.getLast?_eq_some_getLast path.pieces_ne_nil] using ends
    have whole := List.dropLast_concat_getLast path.pieces_ne_nil
    rw [last] at whole
    exact whole.symm
  · exact (List.append_nil _).symm

/-- An ordinary path is spelled by its names. -/
theorem IsOrdinary.isSpelledBy {path : Path} (ordinary : path.IsOrdinary) :
    path.IsSpelledBy path.stem := by
  refine ⟨ordinary.names, ?_⟩
  have whole := path.pieces_eq_stem_append
  split at whole
  · exact .inr whole
  · rw [List.append_nil] at whole
    exact .inl whole

/-- The text of names is the names with separators between them. -/
theorem text_ofPieces (names : List Piece) :
    (ofPieces names).text = "/".intercalate (names.map Piece.text) := by
  cases names <;> rfl

/-- The first of some names are a path no longer than that of all of them. -/
theorem utf8ByteSize_text_le (names others : List Piece) :
    (ofPieces names).text.utf8ByteSize
      ≤ ("/".intercalate ((names ++ others).map Piece.text)).utf8ByteSize := by
  rw [text_ofPieces]
  by_cases none : names = []
  · simp [none]
  by_cases last : others = []
  · simp [last]
  · have cut := @String.intercalate_append_of_ne_nil (names.map Piece.text)
      (others.map Piece.text) "/" (by simpa using none) (by simpa using last)
    rw [List.map_append, cut, String.utf8ByteSize_append, String.utf8ByteSize_append]
    omega

namespace IsSpelledBy

variable {path : Path} {names : List Piece}

/-- The text of a path that names spell is the names with separators between them, and perhaps a
separator at the end. -/
theorem text_eq (spelled : path.IsSpelledBy names) :
    path.text = "/".intercalate (names.map Piece.text) ∨
      path.text = "/".intercalate ((names ++ [Piece.empty]).map Piece.text) := by
  rcases spelled.pieces_eq with pieces | pieces
  · exact .inl (by rw [text, pieces])
  · exact .inr (by rw [text, pieces])

/-- A path that names spell starts from none of them. -/
theorem start?_eq (spelled : path.IsSpelledBy names) : path.start? = none := by
  cases names with
  | nil =>
    have pieces : path.pieces = [.empty] := by
      rcases spelled.pieces_eq with pieces | pieces
      · exact absurd pieces path.pieces_ne_nil
      · exact pieces
    rw [start?, pieces]
    rfl
  | cons piece names =>
    have leads := (List.forall_mem_cons.1 spelled.ordinary).1.leads
    have notHere : piece ≠ .here := by
      rintro rfl
      simp [Piece.isIdle] at leads
    rcases spelled.pieces_eq with pieces | pieces <;>
      cases names <;> simp [start?, pieces, leads, notHere]

/-- A path that names spell goes down. -/
theorem isDownward (spelled : path.IsSpelledBy names) : path.IsDownward := by
  have named : .up ∉ names := fun mem => (spelled.ordinary _ mem).notUp rfl
  have ended : Piece.up ∉ [Piece.empty] := by decide
  rcases spelled.pieces_eq with pieces | pieces
  · rwa [IsDownward, pieces]
  · rw [IsDownward, pieces, List.mem_append, not_or]
    exact ⟨named, ended⟩

/-- A path that names spell leads to the place with these names. -/
theorem location_eq (spelled : path.IsSpelledBy names) : path.location = names.map Piece.text := by
  have alone := Piece.names_of_isOrdinary spelled.ordinary
  rcases spelled.pieces_eq with pieces | pieces
  · rw [location, pieces, alone]
  · rw [location, pieces, Piece.names_append, alone]
    exact List.append_nil _

/-- The paths above one that names spell are those of the steps taken back. -/
theorem parents_eq_map (spelled : path.IsSpelledBy names) :
    path.parents = (shortened names.reverse).map fun steps => ofPieces steps.reverse := by
  have start := spelled.start?_eq
  have steps : path.steps = path.pieces := by rw [Path.steps, start]
  have taken : shortened path.pieces.reverse = shortened names.reverse := by
    rcases spelled.pieces_eq with pieces | pieces
    · rw [pieces]
    · rw [pieces, List.reverse_append]
      rfl
  have along (steps : List Piece) : ofSteps none steps = ofPieces steps := by cases steps <;> rfl
  simp [parents, start, steps, taken, along]

/-- Right above a path that names spell is that of all names but the last, and above it are the
paths above that one. -/
theorem parents_eq {last : Piece} (spelled : path.IsSpelledBy (names ++ [last])) :
    path.parents = ofPieces names :: (ofPieces names).parents := by
  obtain ⟨before, final⟩ := List.forall_mem_append.1 spelled.ordinary
  have leads := (List.forall_mem_singleton.1 final).leads
  have kept : names.reverse.dropWhile Piece.isIdle = names.reverse := by
    cases reversed : names.reverse with
    | nil => rfl
    | cons next others =>
      have mem : next ∈ names := List.mem_reverse.1 (reversed ▸ List.mem_cons_self)
      simp [(before next mem).leads]
  rw [spelled.parents_eq_map, (isSpelledBy_ofPieces before).parents_eq_map, List.reverse_append,
    List.reverse_singleton, List.singleton_append, shortened, leads]
  simp [kept]

/-- The path of the first names is no longer than that of all of them. -/
theorem utf8ByteSize_le {others : List Piece} (spelled : path.IsSpelledBy (names ++ others)) :
    (ofPieces names).text.utf8ByteSize ≤ path.text.utf8ByteSize := by
  rcases spelled.text_eq with text | text
  · rw [text]
    exact utf8ByteSize_text_le names others
  · rw [text, List.append_assoc]
    exact utf8ByteSize_text_le names (others ++ [.empty])

/-- The text of a path with a name is not empty. -/
theorem text_ne (spelled : path.IsSpelledBy names) (named : names ≠ []) : path.text ≠ "" := by
  obtain ⟨first, others, rfl⟩ := List.exists_cons_of_ne_nil named
  have letters := (List.forall_mem_cons.1 spelled.ordinary).1.text_ne
  have longer := @utf8ByteSize_le path [first] others spelled
  have only : (ofPieces [first]).text = first.text := by simp [text_ofPieces]
  intro none
  rw [none, only] at longer
  have size : first.text.utf8ByteSize = 0 := Nat.le_zero.1 longer
  exact letters (String.utf8ByteSize_eq_zero_iff.1 size)

/-- No character of a path that names spell has code zero. -/
theorem noZero (spelled : path.IsSpelledBy names) : '\x00' ∉ path.text.toList := by
  have pieces : ∀ piece ∈ path.pieces, '\x00' ∉ piece.text.toList := by
    have named : ∀ piece ∈ names, '\x00' ∉ piece.text.toList := fun piece mem =>
      (spelled.ordinary piece mem).noZero
    rcases spelled.pieces_eq with pieces | pieces <;> rw [pieces]
    · exact named
    · exact List.forall_mem_append.2 ⟨named, List.forall_mem_singleton.2 (by decide)⟩
  rw [toList_text]
  intro mem
  rcases Text.mem_of_mem_intercalate mem with separator | ⟨part, own, inside⟩
  · contradiction
  · obtain ⟨piece, present, rfl⟩ := List.mem_map.1 own
    exact pieces piece present inside

/-- A path with a name can be asked for unless it is too long. -/
theorem isAddress (spelled : path.IsSpelledBy names) (named : names ≠ [])
    (short : path.text.utf8ByteSize ≤ limit) : path.isAddress := by
  simp [Path.isAddress, spelled.text_ne named, spelled.noZero, short]

end IsSpelledBy
end Path
end CSource
