import CSource.Text.Split

/-!
# File paths

A path is the list of pieces between its separators, so that it is known by its text and its
text by it (`text_ofText`, `ofText_text`). Nothing is normalized: empty pieces and pieces that
stay in place are part of a path and are looked through where its file name or the paths above
it are asked for.
-/

namespace CSource

/-- What stands between two separators of a path. -/
structure Piece where
  /-- The characters of the piece. -/
  text : String
  /-- A piece holds no separator. -/
  separated : '/' ∉ text.toList
deriving DecidableEq

namespace Piece

/-- The piece between two separators in a row. -/
def empty : Piece := ⟨"", by decide⟩

/-- The piece that stays in place. -/
def here : Piece := ⟨".", by decide⟩

/-- The piece that goes one directory up. -/
def up : Piece := ⟨"..", by decide⟩

/-- Whether a piece leads nowhere. -/
def isIdle (piece : Piece) : Bool := piece = empty || piece = here

end Piece

/-- A file path. -/
structure Path where
  /-- What stands between the separators, in order. -/
  pieces : List Piece
  /-- A path has a piece, if only an empty one. -/
  pieces_ne_nil : pieces ≠ []
deriving DecidableEq

namespace Path

/-- The path with some pieces; without any it is the empty path. -/
def ofPieces : List Piece → Path
  | [] => ⟨[.empty], by simp⟩
  | piece :: others => ⟨piece :: others, by simp⟩

/-- The pieces of a text. -/
def piecesOfText (text : String) : List Piece :=
  (Text.pieces '/' text.toList).attach.map fun ⟨piece, mem⟩ =>
    ⟨String.ofList piece, by
      simpa using Text.separator_not_mem_pieces '/' text.toList piece mem⟩

/-- The characters of the pieces of a text are its cut at the separators. -/
theorem piecesOfText_toList (text : String) :
    (piecesOfText text).map (fun piece => piece.text.toList) = Text.pieces '/' text.toList := by
  simp [piecesOfText, List.map_map, Function.comp_def]

/-- The path with a text. -/
def ofText (text : String) : Path where
  pieces := piecesOfText text
  pieces_ne_nil absent := by
    have cut := piecesOfText_toList text
    rw [absent] at cut
    exact Text.pieces_ne_nil '/' text.toList cut.symm

/-- The text of a path. -/
def text (path : Path) : String := "/".intercalate (path.pieces.map Piece.text)

/-- The characters of the text are those of the pieces around separators. -/
theorem toList_text (path : Path) :
    path.text.toList = ['/'].intercalate (path.pieces.map fun piece => piece.text.toList) := by
  simp [text, Function.comp_def]

/-- A path keeps its text. -/
@[simp] theorem text_ofText (text : String) : (ofText text).text = text := by
  apply String.toList_inj.1
  rw [toList_text, ofText, piecesOfText_toList, Text.intercalate_pieces]

/-- A path is read back from its text. -/
@[simp] theorem ofText_text (path : Path) : ofText path.text = path := by
  have injective : Function.Injective fun piece : Piece => piece.text.toList := by
    rintro ⟨left, _⟩ ⟨right, _⟩ same
    simpa [String.toList_inj] using same
  have cut : (piecesOfText path.text).map (fun piece => piece.text.toList)
      = path.pieces.map fun piece => piece.text.toList := by
    rw [piecesOfText_toList, toList_text]
    apply Text.pieces_intercalate (by simpa using path.pieces_ne_nil)
    intro part mem
    obtain ⟨piece, _, rfl⟩ := List.mem_map.1 mem
    exact piece.separated
  obtain ⟨pieces, nonempty⟩ := path
  simpa [ofText] using (List.map_inj_right fun _ _ same => injective same).1 cut

/-- The piece that a path starts from, if it names one: an empty piece with others after it is the
root, and a piece that stays in place is where the path is followed from. -/
def start? (path : Path) : Option Piece :=
  match path.pieces with
  | [] => none
  | [piece] => if piece = .here then some piece else none
  | piece :: _ => if piece.isIdle then some piece else none

/-- Whether a path starts from the root. -/
def isAbsolute (path : Path) : Bool := path.start? = some .empty

/-- The pieces of a path after the one it starts from. -/
def steps (path : Path) : List Piece :=
  match path.start? with
  | some _ => path.pieces.tail
  | none => path.pieces

/-- The path from a start along some steps. -/
def ofSteps : Option Piece → List Piece → Path
  | some piece, [] => if piece = .empty then ⟨[.empty, .empty], by simp⟩ else ofPieces [piece]
  | some piece, steps => ofPieces (piece :: steps)
  | none, steps => ofPieces steps

/-- The steps left after each step that leads somewhere is taken back. Steps stand last first. -/
def shortened : List Piece → List (List Piece)
  | [] => []
  | piece :: before =>
    if piece.isIdle then shortened before
    else before.dropWhile Piece.isIdle :: shortened before

/-- The paths above a path, nearest first. The root and the empty path have none above them. -/
def parents (path : Path) : List Path :=
  (shortened path.steps.reverse).map (fun steps => ofSteps path.start? steps.reverse) ++
    if path.start? = some .here then [ofPieces []] else []

/-- The path right above a path. -/
def parent? (path : Path) : Option Path := path.parents.head?

/-- The last piece that leads somewhere, unless it goes up. -/
def fileName? (path : Path) : Option Piece :=
  match (path.pieces.filter fun piece => !piece.isIdle).getLast? with
  | none => none
  | some piece => if piece = .up then none else some piece

/-- A path as seen from another. An absolute path stays as it is, and a path that ends in a
separator is continued without a second one. -/
def join (base path : Path) : Path :=
  if path.isAbsolute then path
  else if base.pieces.getLast? = some .empty then ofPieces (base.pieces.dropLast ++ path.pieces)
  else ofPieces (base.pieces ++ path.pieces)

end Path
end CSource
