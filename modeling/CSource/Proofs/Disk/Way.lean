import CSource.Proofs.Disk.Growth
import CSource.Proofs.Path.Ordinary
import Mathlib.Data.List.Infix
import Mathlib.Data.List.Induction

/-!
# Making ways

Ordinary names are followed as far as directories go: to the end, to a file in the way, or to where
nothing is. Directories can be made all the way to a place exactly where no file stands in the way,
and then nothing else changes; where one does, the disk stays as it is (`makeDirectories_ofPieces`,
`makeDirectories_of_isBlocked`).
-/

namespace CSource.Disk

/-- Whether a file stands at a place or above it, where a directory would be needed. -/
def IsBlocked (disk : Disk) (location : Location) : Prop :=
  ∃ above, above <+: location ∧ (disk.content? above).isSome

instance (disk : Disk) (location : Location) : Decidable (disk.IsBlocked location) :=
  decidable_of_iff (∃ above ∈ location.inits, (disk.content? above).isSome)
    (by simp [IsBlocked])

/-- No file stands at the top. -/
theorem not_isBlocked_nil (disk : Disk) : ¬disk.IsBlocked [] := by
  rintro ⟨above, start, found⟩
  obtain rfl := List.prefix_nil.1 start
  simp [content?] at found

/-- A place is blocked by a file there or above. -/
theorem isBlocked_concat {disk : Disk} {location : Location} {name : String} :
    disk.IsBlocked (location ++ [name]) ↔
      disk.IsBlocked location ∨ (disk.content? (location ++ [name])).isSome := by
  constructor
  · rintro ⟨above, start, found⟩
    rcases List.prefix_concat_iff.1 start with rfl | start
    · exact .inr found
    · exact .inl ⟨above, start, found⟩
  · rintro (⟨above, start, found⟩ | found)
    · exact ⟨above, start.trans (List.prefix_append _ _), found⟩
    · exact ⟨_, List.prefix_rfl, found⟩

/-- What stands right below a place stands in a directory. -/
theorem lookup?_of_concat (disk : Disk) {location : Location} {name : String} {entry : Entry}
    (found : disk.lookup? (location ++ [name]) = some entry) :
    disk.lookup? location = some .directory := by
  simpa using disk.lookup?_dropLast found

/-- Whatever is above a directory, or is that directory, is a directory. -/
theorem lookup?_of_prefix (disk : Disk) {above location : Location} (start : above <+: location)
    (found : disk.lookup? location = some .directory) : disk.lookup? above = some .directory := by
  by_cases same : above = location
  · rwa [same]
  · exact disk.lookup?_of_isAbove ⟨start, same⟩ (by simp [found])

/-- Nothing is at a place that is not blocked, unless a directory is. -/
theorem lookup?_of_not_isBlocked {disk : Disk} {location : Location}
    (free : ¬disk.IsBlocked location) (missing : disk.lookup? location ≠ some .directory) :
    disk.lookup? location = none := by
  match found : disk.lookup? location with
  | none => rfl
  | some .directory => exact absurd found missing
  | some (.file content) =>
    exact absurd ⟨location, List.prefix_rfl, by simp [content?_eq_some.2 found]⟩ free

/-! ## Following ordinary names -/

/-- Pieces in a row are followed one after the other. -/
theorem follow_append (disk : Disk) (start : Location) (left right : List Piece) :
    disk.follow start (left ++ right) = (disk.follow start left).bind (disk.follow · right) := by
  induction left generalizing start with
  | nil => rfl
  | cons piece pieces recurse =>
    rw [List.cons_append, follow, follow]
    split
    · rfl
    · rfl
    · split
      · exact recurse start
      · split
        · exact recurse start.dropLast
        · split
          · exact recurse (start ++ [piece.text])
          · rfl

/-- A piece that does not go up is followed from a directory. -/
theorem follow_concat {disk : Disk} {start place : Location} {pieces : List Piece} {last : Piece}
    (followed : disk.follow start pieces = .ok place) (notUp : last ≠ .up) (fits : last.fits) :
    disk.follow start (pieces ++ [last]) =
      match disk.lookup? place with
      | none => .error .missing
      | some (.file _) => .error .blocked
      | some .directory => .ok (place ++ Piece.names [last]) := by
  rw [follow_append, followed, Except.bind, follow]
  cases disk.lookup? place with
  | none => rfl
  | some entry =>
    cases entry with
    | file content => rfl
    | directory => cases idle : last.isIdle <;> simp [follow, idle, notUp, fits, Piece.names]

/-- An ordinary name is followed from a directory. -/
theorem follow_concat_name {disk : Disk} {start place : Location} {pieces : List Piece}
    {last : Piece} (followed : disk.follow start pieces = .ok place) (ordinary : last.IsOrdinary) :
    disk.follow start (pieces ++ [last]) =
      match disk.lookup? place with
      | none => .error .missing
      | some (.file _) => .error .blocked
      | some .directory => .ok (place ++ [last.text]) := by
  rw [follow_concat followed ordinary.notUp ordinary.fits, Piece.names_cons_name ordinary.leads]
  rfl

/-- Pieces are followed no further than to the first obstacle. -/
theorem follow_append_of_error {disk : Disk} {start : Location} {pieces : List Piece}
    {obstacle : Obstacle} (failed : disk.follow start pieces = .error obstacle)
    (others : List Piece) : disk.follow start (pieces ++ others) = .error obstacle := by
  rw [follow_append, failed]
  rfl

section Names

variable {disk : Disk} {names : List Piece} {last : Piece}
  (ordinary : ∀ piece ∈ names ++ [last], piece.IsOrdinary)
include ordinary

/-- Ordinary names below a directory are followed to their place. -/
theorem follow_of_directory (directory : disk.lookup? (names.map Piece.text) = some .directory) :
    disk.follow [] (names ++ [last]) = .ok (names.map Piece.text ++ [last.text]) := by
  induction names using List.reverseRecOn generalizing last with
  | nil =>
    have top : disk.follow [] [] = .ok [] := rfl
    exact follow_concat_name top (ordinary last (by simp))
  | append_singleton names next recurse =>
    obtain ⟨before, final⟩ := List.forall_mem_append.1 ordinary
    rw [List.map_append, List.map_singleton] at directory
    have reached := recurse before (disk.lookup?_of_concat directory)
    rw [follow_concat_name reached (List.forall_mem_singleton.1 final), directory, List.map_append,
      List.map_singleton]

/-- Ordinary names are followed to a file that stands in the way. -/
theorem follow_of_isBlocked (blocked : disk.IsBlocked (names.map Piece.text)) :
    disk.follow [] (names ++ [last]) = .error .blocked := by
  induction names using List.reverseRecOn generalizing last with
  | nil => exact absurd blocked disk.not_isBlocked_nil
  | append_singleton names next recurse =>
    obtain ⟨before, final⟩ := List.forall_mem_append.1 ordinary
    rw [List.map_append, List.map_singleton] at blocked
    rcases isBlocked_concat.1 blocked with above | file
    · exact follow_append_of_error (recurse before above) [last]
    · obtain ⟨content, file⟩ := Option.isSome_iff_exists.1 file
      have found := content?_eq_some.1 file
      have reached := follow_of_directory before (disk.lookup?_of_concat found)
      rw [follow_concat_name reached (List.forall_mem_singleton.1 final), found]

/-- Ordinary names with no file in the way are followed to where nothing is, unless to their
place. -/
theorem follow_of_missing (free : ¬disk.IsBlocked (names.map Piece.text))
    (missing : disk.lookup? (names.map Piece.text) ≠ some .directory) :
    disk.follow [] (names ++ [last]) = .error .missing := by
  induction names using List.reverseRecOn generalizing last with
  | nil => exact absurd rfl missing
  | append_singleton names next recurse =>
    obtain ⟨before, final⟩ := List.forall_mem_append.1 ordinary
    rw [List.map_append, List.map_singleton] at free missing
    by_cases directory : disk.lookup? (names.map Piece.text) = some .directory
    · have reached := follow_of_directory before directory
      rw [follow_concat_name reached (List.forall_mem_singleton.1 final),
        lookup?_of_not_isBlocked free missing]
    · obtain ⟨freeAbove, _⟩ := not_or.1 (mt isBlocked_concat.2 free)
      exact follow_append_of_error (recurse before freeAbove directory) [last]

end Names

/-! ## Making directories -/

/-- A disk has been opened up to a place if everything on the way there, the place with it, is a
directory now, and all else is as before. -/
structure HasOpened (disk ready : Disk) (location : Location) : Prop where
  /-- There are directories all the way. -/
  directory : ∀ above, above <+: location → ready.lookup? above = some .directory
  /-- Nothing else has changed. -/
  other : ∀ place, ¬place <+: location → ready.lookup? place = disk.lookup? place

namespace HasOpened

variable {disk ready : Disk} {location : Location}

/-- A disk with a directory at a place is open up to there. -/
theorem refl (found : disk.lookup? location = some .directory) : disk.HasOpened disk location :=
  ⟨fun _ start => disk.lookup?_of_prefix start found, fun _ _ => rfl⟩

/-- What is right below a place is there as before when the disk is open up to that place. -/
theorem lookup?_concat {name : String} (opened : disk.HasOpened ready location) :
    ready.lookup? (location ++ [name]) = disk.lookup? (location ++ [name]) := by
  refine opened.other _ fun start => ?_
  have length := start.length_le
  simp only [List.length_append, List.length_singleton] at length
  omega

/-- A disk that is open up to a place is open to one below after a directory is put there. -/
theorem place {name : String} (opened : disk.HasOpened ready location)
    (free : ready.Free (location ++ [name])) :
    disk.HasOpened (ready.place _ .directory free) (location ++ [name]) where
  directory above start := by
    rw [lookup?_place]
    split
    · rfl
    · rename_i differs
      rcases List.prefix_concat_iff.1 start with same | start
      · exact absurd same.symm differs
      · exact opened.directory above start
  other place off := by
    have apart : location ++ [name] ≠ place := fun same => off (same ▸ List.prefix_rfl)
    rw [lookup?_place, if_neg apart]
    exact opened.other place fun start => off (start.trans (List.prefix_append _ _))

end HasOpened

section Making

variable {disk : Disk} {names : List Piece} {last : Piece}
  (ordinary : ∀ piece ∈ names ++ [last], piece.IsOrdinary)
  (short : (Path.ofPieces (names ++ [last])).text.utf8ByteSize ≤ Path.limit)
include ordinary short

/-- Making a directory at ordinary names begins by following these. -/
theorem makeDirectory_ofPieces (disk : Disk) :
    disk.makeDirectory (Path.ofPieces (names ++ [last])) =
    match disk.follow [] (names ++ [last]) with
    | .error obstacle => .error obstacle
    | .ok location =>
      if (disk.lookup? location).isSome then .error .taken
      else if free : disk.Free location then .ok (disk.place location .directory free)
      else .error .missing := by
  have spelled := Path.isSpelledBy_ofPieces ordinary
  have named : names ++ [last] ≠ [] := by simp
  have leads := (ordinary last (by simp)).leads
  have notEmpty : last ≠ .empty := by
    rintro rfl
    simp [Piece.isIdle] at leads
  have trimmed : ((names ++ [last]).reverse.dropWhile (· = .empty)).reverse = names ++ [last] := by
    simp [notEmpty]
  rewrite [makeDirectory, if_neg (spelled.text_ne named), if_pos (spelled.isAddress named short),
    Path.pieces_ofPieces named, trimmed]
  rfl

/-- What ordinary names reach is at their place, if they are followed there. -/
theorem reach?_ofPieces (disk : Disk) : disk.reach? (Path.ofPieces (names ++ [last])) =
    match disk.follow [] (names ++ [last]) with
    | .ok location => disk.lookup? location
    | .error _ => none := by
  have spelled := Path.isSpelledBy_ofPieces ordinary
  have named : names ++ [last] ≠ [] := by simp
  rewrite [reach?, if_pos (spelled.isAddress named short), Path.pieces_ofPieces named]
  rfl

/-- No directory is made where a file stands in the way, and nothing changes. -/
theorem makeDirectories_of_isBlocked (above : List Path)
    (blocked : disk.IsBlocked ((names ++ [last]).map Piece.text)) :
    disk.makeDirectories (Path.ofPieces (names ++ [last]) :: above) = (false, disk) := by
  have spelled := Path.isSpelledBy_ofPieces ordinary
  rw [makeDirectories, if_neg (spelled.text_ne (by simp)), makeDirectory_ofPieces ordinary short,
    reach?_ofPieces ordinary short]
  rw [List.map_append, List.map_singleton] at blocked
  rcases isBlocked_concat.1 blocked with before | file
  · rw [follow_of_isBlocked ordinary before]
    rfl
  · obtain ⟨content, file⟩ := Option.isSome_iff_exists.1 file
    have found := content?_eq_some.1 file
    rw [follow_of_directory ordinary (disk.lookup?_of_concat found)]
    simp [found]

end Making

/-- Where no file stands in the way, directories are made all the way. -/
theorem makeDirectories_ofPieces {disk : Disk} {names : List Piece}
    (ordinary : ∀ piece ∈ names, piece.IsOrdinary)
    (short : (Path.ofPieces names).text.utf8ByteSize ≤ Path.limit)
    (free : ¬disk.IsBlocked (names.map Piece.text)) :
    ∃ ready,
      disk.makeDirectories (Path.ofPieces names :: (Path.ofPieces names).parents) = (true, ready) ∧
      disk.HasOpened ready (names.map Piece.text) := by
  -- A directory that is missing right above is made first, which is the same for fewer names.
  induction names using List.reverseRecOn generalizing disk with
  | nil => exact ⟨disk, rfl, .refl rfl⟩
  | append_singleton names last recurse =>
    have spelled := Path.isSpelledBy_ofPieces ordinary
    have before := (List.forall_mem_append.1 ordinary).1
    have shorter := Nat.le_trans spelled.utf8ByteSize_le short
    rw [List.map_append, List.map_singleton] at free ⊢
    obtain ⟨freeAbove, _⟩ := not_or.1 (mt isBlocked_concat.2 free)
    rw [makeDirectories, if_neg (spelled.text_ne (by simp)), makeDirectory_ofPieces ordinary short,
      reach?_ofPieces ordinary short, spelled.parents_eq]
    by_cases directory : disk.lookup? (names.map Piece.text) = some .directory
    · rw [follow_of_directory ordinary directory]
      by_cases there : disk.lookup? (names.map Piece.text ++ [last.text]) = some .directory
      · exact ⟨disk, by simp [there], .refl there⟩
      · have absent := lookup?_of_not_isBlocked free there
        have room : disk.Free (names.map Piece.text ++ [last.text]) := by
          simp [Free, directory, absent]
        exact ⟨_, by simp [absent, room], (HasOpened.refl directory).place room⟩
    · rw [follow_of_missing ordinary freeAbove directory]
      obtain ⟨ready, made, opened⟩ := recurse before shorter freeAbove
      have ways := opened.directory _ List.prefix_rfl
      have absent : ready.lookup? (names.map Piece.text ++ [last.text]) = none := by
        rw [opened.lookup?_concat]
        exact lookup?_of_not_isBlocked free fun found => directory (disk.lookup?_of_concat found)
      have room : ready.Free (names.map Piece.text ++ [last.text]) := by
        simp [Free, ways, absent]
      have next := makeDirectory_ofPieces ordinary short ready
      rw [follow_of_directory ordinary ways] at next
      simp only [absent, Option.isSome_none, Bool.false_eq_true, if_false, dif_pos room] at next
      exact ⟨_, by simp [made, next], opened.place room⟩

end CSource.Disk
