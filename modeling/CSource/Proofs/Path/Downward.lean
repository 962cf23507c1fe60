import CSource.Path.Basic
import CSource.Disk.Basic

/-!
# Paths that go down

A path that never goes up leads to the place that its names spell, whatever disk it is followed
on. The paths above it go down as well, and lead to the places above that place.
-/

namespace CSource

/-- The names among some pieces: the pieces that lead somewhere. -/
def Piece.names (pieces : List Piece) : Location :=
  (pieces.filter fun piece => !piece.isIdle).map Piece.text

namespace Piece

/-- The names of pieces in a row are those of the first and of the others. -/
@[simp] theorem names_append (left right : List Piece) :
    names (left ++ right) = names left ++ names right := by simp [names]

/-- Without pieces there are no names. -/
@[simp] theorem names_nil : names [] = [] := rfl

/-- An idle piece has no name. -/
theorem names_cons_idle {piece : Piece} (idle : piece.isIdle) (pieces : List Piece) :
    names (piece :: pieces) = names pieces := by simp [names, idle]

/-- A piece that leads somewhere is the first name. -/
theorem names_cons_name {piece : Piece} (name : piece.isIdle = false) (pieces : List Piece) :
    names (piece :: pieces) = piece.text :: names pieces := by simp [names, name]

/-- Idle pieces have no names. -/
theorem names_eq_nil_iff {pieces : List Piece} :
    names pieces = [] ↔ ∀ piece ∈ pieces, piece.isIdle := by simp [names]

/-- Pieces are those up to the separators at their end, and then these separators. -/
theorem trimmed_append (pieces : List Piece) :
    (pieces.reverse.dropWhile (· = empty)).reverse ++ (pieces.reverse.takeWhile (· = empty)).reverse
      = pieces := by
  rw [← List.reverse_append, List.takeWhile_append_dropWhile, List.reverse_reverse]

/-- Without separators at their end, pieces are among the pieces. -/
theorem mem_of_mem_trimmed {piece : Piece} {pieces : List Piece}
    (mem : piece ∈ (pieces.reverse.dropWhile (· = empty)).reverse) : piece ∈ pieces :=
  trimmed_append pieces ▸ List.mem_append_left _ mem

/-- Without separators at their end, pieces have the same names. -/
theorem names_trimmed (pieces : List Piece) :
    names (pieces.reverse.dropWhile (· = empty)).reverse = names pieces := by
  have idle : names (pieces.reverse.takeWhile (· = empty)).reverse = [] := by
    refine names_eq_nil_iff.2 fun piece mem => ?_
    have isEmpty := List.all_eq_true.1 List.all_takeWhile piece (List.mem_reverse.1 mem)
    simp [isIdle, of_decide_eq_true isEmpty]
  have whole := congrArg names (trimmed_append pieces)
  rwa [names_append, idle, List.append_nil] at whole

end Piece

/-- A place is above another if that one is somewhere in it. -/
def Location.IsAbove (above location : Location) : Prop := above <+: location ∧ above ≠ location

namespace Path

/-- A path goes down if it is made of ordinary names, and of pieces that lead nowhere. -/
def IsDownward (path : Path) : Prop := .up ∉ path.pieces

instance (path : Path) : Decidable path.IsDownward := inferInstanceAs (Decidable (¬ _))

/-- The place that a path leads to when it goes down. -/
def location (path : Path) : Location := Piece.names path.pieces

/-- The start of a path leads nowhere. -/
theorem isIdle_of_start? {path : Path} {piece : Piece} (start : path.start? = some piece) :
    piece.isIdle := by
  obtain ⟨pieces, nonempty⟩ := path
  match pieces with
  | [] => exact absurd rfl nonempty
  | [only] =>
    obtain ⟨rfl, rfl⟩ : only = .here ∧ only = piece := by simpa [start?] using start
    rfl
  | first :: next :: others =>
    obtain ⟨idle, rfl⟩ : first.isIdle ∧ first = piece := by simpa [start?] using start
    exact idle

/-- A path is its start and its steps. -/
theorem pieces_eq_start_append_steps (path : Path) :
    path.pieces = path.start?.toList ++ path.steps := by
  obtain ⟨pieces, nonempty⟩ := path
  match pieces with
  | [] => exact absurd rfl nonempty
  | [piece] => by_cases here : piece = .here <;> simp [start?, steps, here]
  | piece :: next :: others => cases idle : piece.isIdle <;> simp [start?, steps, idle]

/-- A path leads where its steps lead. -/
theorem location_eq_names_steps (path : Path) : path.location = Piece.names path.steps := by
  rw [location, pieces_eq_start_append_steps, Piece.names_append]
  cases start : path.start? with
  | none => rfl
  | some piece => simp [Piece.names_cons_idle (isIdle_of_start? start)]

/-- The path from a start along some steps is these, with at most a piece after them that leads
nowhere. -/
theorem pieces_ofSteps (start : Option Piece) (steps : List Piece) :
    ∃ idle : List Piece, (∀ piece ∈ idle, piece.isIdle) ∧
      (ofSteps start steps).pieces = start.toList ++ steps ++ idle := by
  cases steps with
  | nil =>
    cases start with
    | none => exact ⟨[.empty], by decide, rfl⟩
    | some piece =>
      by_cases root : piece = .empty
      · exact ⟨[.empty], by decide, by simp [ofSteps, root]⟩
      · exact ⟨[], by decide, by simp [ofSteps, root, ofPieces]⟩
  | cons step others => cases start <;> exact ⟨[], by decide, by simp [ofSteps, ofPieces]⟩

/-- The path from an idle start along some steps leads where these lead. -/
theorem location_ofSteps {start : Option Piece} (idle : ∀ piece ∈ start, piece.isIdle)
    (steps : List Piece) : (ofSteps start steps).location = Piece.names steps := by
  obtain ⟨last, idleLast, pieces⟩ := pieces_ofSteps start steps
  have noStart : Piece.names start.toList = [] := Piece.names_eq_nil_iff.2 (by simpa using idle)
  rw [location, pieces, Piece.names_append, Piece.names_append, noStart,
    Piece.names_eq_nil_iff.2 idleLast, List.nil_append, List.append_nil]

/-- The path from an idle start along steps that do not go up goes down. -/
theorem isDownward_ofSteps {start : Option Piece} (idle : ∀ piece ∈ start, piece.isIdle)
    {steps : List Piece} (down : .up ∉ steps) : (ofSteps start steps).IsDownward := by
  obtain ⟨last, idleLast, pieces⟩ := pieces_ofSteps start steps
  have upLeads : ¬Piece.up.isIdle := by decide
  rw [IsDownward, pieces, List.mem_append, List.mem_append, Option.mem_toList]
  rintro ((first | step) | after)
  · exact upLeads (idle _ first)
  · exact down step
  · exact upLeads (idleLast _ after)

/-- Steps taken back leave the first of the steps, and one that leads somewhere is gone. The steps
stand last first. -/
theorem of_mem_shortened {pieces left : List Piece} (mem : left ∈ shortened pieces) :
    ∃ gone, pieces = gone ++ left ∧ ∃ piece ∈ gone, piece.isIdle = false := by
  induction pieces with
  | nil => cases mem
  | cons piece before recurse =>
    have later : left ∈ shortened before →
        ∃ gone, piece :: before = gone ++ left ∧ ∃ other ∈ gone, other.isIdle = false := by
      intro mem
      obtain ⟨gone, rfl, other, found, name⟩ := recurse mem
      exact ⟨piece :: gone, rfl, other, List.mem_cons_of_mem _ found, name⟩
    rw [shortened] at mem
    split at mem
    · exact later mem
    · rename_i name
      rcases List.mem_cons.1 mem with rfl | mem
      · refine ⟨piece :: before.takeWhile Piece.isIdle, ?_, piece, List.mem_cons_self, ?_⟩
        · rw [List.cons_append, List.takeWhile_append_dropWhile]
        · simpa using name
      · exact later mem

/-- The paths above a path that goes down go down, and lead to the working directory or to places
above the place of the path. -/
theorem of_mem_parents {path above : Path} (down : path.IsDownward) (mem : above ∈ path.parents) :
    above.IsDownward ∧ (above.location = [] ∨ above.location.IsAbove path.location) := by
  have idle : ∀ piece ∈ path.start?, piece.isIdle := fun _ start => isIdle_of_start? start
  rw [parents, List.mem_append] at mem
  rcases mem with mem | mem
  · obtain ⟨left, taken, rfl⟩ := List.mem_map.1 mem
    obtain ⟨gone, split, piece, found, name⟩ := of_mem_shortened taken
    have steps : path.steps = left.reverse ++ gone.reverse := by
      rw [← List.reverse_append, ← split, List.reverse_reverse]
    have lost : Piece.names gone.reverse ≠ [] := fun none => by
      simpa [name] using Piece.names_eq_nil_iff.1 none piece (by simpa using found)
    constructor
    · refine isDownward_ofSteps idle fun up => down ?_
      rw [pieces_eq_start_append_steps, steps]
      exact List.mem_append_right _ (List.mem_append_left _ up)
    · right
      rw [location_ofSteps idle, location_eq_names_steps path, steps, Piece.names_append]
      exact ⟨List.prefix_append _ _, fun same => lost (by simpa using same)⟩
  · split at mem
    · obtain rfl := List.mem_singleton.1 mem
      exact ⟨by decide, .inl rfl⟩
    · cases mem

end Path
end CSource
