import CSource.Proofs.Disk.Way
import CSource.Proofs.File.Run

/-!
# Outcomes of writes

What is on a disk decides how the write of a file to an ordinary path ends: whether something is
there already, whether a file stands where a directory is needed, and whether a directory stands
where the file is to go (`File.verdict`). The disk after the write is known place by place from the
outcome alone (`File.patch`), so that a write that fails has changed no file.
-/

namespace CSource

/-- A place is above one in a directory if it is that directory or above it. -/
theorem Location.isAbove_concat {above location : Location} {name : String} :
    above.IsAbove (location ++ [name]) ↔ above <+: location := by
  constructor
  · rintro ⟨start, apart⟩
    exact (List.prefix_concat_iff.1 start).resolve_left apart
  · intro start
    refine ⟨start.trans (List.prefix_append _ _), ?_⟩
    rintro rfl
    have length := start.length_le
    simp only [List.length_append, List.length_singleton] at length
    omega

instance (above location : Location) : Decidable (above.IsAbove location) :=
  inferInstanceAs (Decidable (_ ∧ _))

namespace Path

/-- The path of the names of an ordinary path but the last. -/
def directory (path : Path) : Path := ofPieces path.stem.dropLast

/-- An ordinary path has a last name, which follows those of its directory. -/
theorem IsOrdinary.exists_concat {path : Path} (ordinary : path.IsOrdinary) :
    ∃ names last, path.stem = names ++ [last] ∧ path.IsSpelledBy (names ++ [last]) ∧
      path.directory = ofPieces names ∧ path.location = names.map Piece.text ++ [last.text] := by
  have whole := List.dropLast_concat_getLast ordinary.named
  have spelled := ordinary.isSpelledBy
  have location := spelled.location_eq
  rw [← whole] at spelled location
  rw [List.map_append, List.map_singleton] at location
  exact ⟨_, _, whole.symm, spelled, rfl, location⟩

/-- The names of an ordinary path but the last are the path right above it. -/
theorem IsOrdinary.parent?_eq {path : Path} (ordinary : path.IsOrdinary) :
    path.parent? = some path.directory ∧
      path.directory.text = "/".intercalate path.location.dropLast := by
  obtain ⟨names, last, _, spelled, directory, location⟩ := ordinary.exists_concat
  rw [parent?, spelled.parents_eq, directory, text_ofPieces, location, List.dropLast_concat]
  exact ⟨rfl, rfl⟩

/-- An ordinary path can be asked for. -/
theorem IsOrdinary.isAddress {path : Path} (ordinary : path.IsOrdinary) : path.isAddress :=
  ordinary.isSpelledBy.isAddress ordinary.named ordinary.short

end Path

namespace Disk

/-- The names of an ordinary path are followed to its place from a directory that holds it. -/
theorem follow_stem {disk : Disk} {path : Path} (ordinary : path.IsOrdinary)
    (directory : disk.lookup? path.location.dropLast = some .directory) :
    disk.follow [] path.stem = .ok path.location := by
  obtain ⟨names, last, stem, spelled, _, location⟩ := ordinary.exists_concat
  rw [location, List.dropLast_concat] at directory
  rw [stem, location]
  exact follow_of_directory spelled.ordinary directory

/-- Whether something is where a path leads: anything at all, or a directory if the path ends in a
separator. -/
def Has (disk : Disk) (path : Path) : Prop :=
  if path.endsInSeparator then disk.lookup? path.location = some .directory
  else (disk.lookup? path.location).isSome

instance (disk : Disk) (path : Path) : Decidable (disk.Has path) :=
  inferInstanceAs (Decidable (ite _ _ _))

/-- A disk contains an ordinary path if something is where it leads. -/
theorem contains_iff_has (disk : Disk) {path : Path} (ordinary : path.IsOrdinary) :
    disk.contains path ↔ disk.Has path := by
  have down := ordinary.isSpelledBy.isDownward
  have notUp : Piece.empty ≠ .up := by decide
  have fits : Piece.empty.fits := by decide
  rw [disk.contains_iff down, Has, path.pieces_eq_stem_append]
  split
  · constructor
    · rintro ⟨_, followed, _⟩
      -- The separator at the end is followed only where the names lead to a directory.
      cases names : disk.follow [] path.stem with
      | error obstacle =>
        rw [follow_append_of_error names] at followed
        contradiction
      | ok place =>
        have stem : .up ∉ path.stem := fun mem => (ordinary.names _ mem).notUp rfl
        have there : place = path.location :=
          (eq_of_follow stem names).trans ((Piece.names_of_isOrdinary ordinary.names).trans
            ordinary.isSpelledBy.location_eq.symm)
        rw [follow_concat names notUp fits, there] at followed
        match found : disk.lookup? path.location with
        | some .directory => rfl
        | some (.file content) => simp [found] at followed
        | none => simp [found] at followed
    · intro found
      have reached := follow_stem ordinary (disk.lookup?_dropLast found)
      rw [follow_concat reached notUp fits, found]
      exact ⟨ordinary.isAddress, congrArg Except.ok (List.append_nil _), rfl⟩
  · constructor
    · rintro ⟨_, _, found⟩
      exact found
    · intro found
      obtain ⟨entry, present⟩ := Option.isSome_iff_exists.1 found
      rw [List.append_nil]
      exact ⟨ordinary.isAddress, follow_stem ordinary (disk.lookup?_dropLast present), found⟩

/-- A file can be written to an ordinary path in a directory, unless the path ends in a separator or
a directory is where it leads. -/
theorem writeFile?_eq {disk : Disk} {path : Path} (ordinary : path.IsOrdinary)
    (directory : disk.lookup? path.location.dropLast = some .directory) (content : String) :
    disk.writeFile? path content =
      if room : path.endsInSeparator = false ∧ disk.Free path.location then
        some (disk.place path.location (.file content) room.2)
      else none := by
  cases ends : path.endsInSeparator with
  | true =>
    have last : path.pieces.getLast? = some .empty := of_decide_eq_true ends
    simp [writeFile?, last]
  | false =>
    have last : path.pieces.getLast? ≠ some .empty := of_decide_eq_false ends
    have pieces := path.pieces_eq_stem_append
    rw [ends, if_neg Bool.false_ne_true, List.append_nil] at pieces
    have followed := follow_stem ordinary directory
    rw [← pieces] at followed
    simp only [writeFile?, ordinary.isAddress, followed]
    simp [last]

end Disk

namespace File

/-- How the write of a file ends, by what is on the disk. -/
def verdict (file : File) (disk : Disk) : Except WriteError WriteOutcome :=
  if file.rules.overwrite = .ifMissing ∧ disk.Has file.path then .ok .skipped
  else if disk.IsBlocked file.path.location.dropLast then .error (.create file.path.directory)
  else if file.path.endsInSeparator ∨ disk.lookup? file.path.location = some .directory then
    .error (.write file.path)
  else .ok .written

/-- What a write that ends in some way puts at a place, if anything. -/
def patch (file : File) : Except WriteError WriteOutcome → Location → Option Entry
  | .ok .written, place =>
    if place = file.path.location then some (.file file.written)
    else if place.IsAbove file.path.location then some .directory else none
  | .error (.write _), place =>
    if place.IsAbove file.path.location then some .directory else none
  | .ok .skipped, _ | .error (.create _), _ => none

variable {file : File} {disk ready : Disk}

/-- Once there are directories all the way to the place of a file, the file is put there unless its
path ends in a separator or a directory is there. -/
theorem put_of_hasOpened (ordinary : file.path.IsOrdinary)
    (opened : disk.HasOpened ready file.path.location.dropLast) :
    (file.put ready).1 =
        (if file.path.endsInSeparator ∨ disk.lookup? file.path.location = some .directory then
          .error (.write file.path) else .ok .written) ∧
      ∀ place, (file.put ready).2.lookup? place =
        (file.patch (file.put ready).1 place).or (disk.lookup? place) := by
  obtain ⟨names, last, _, _, _, location⟩ := ordinary.exists_concat
  have directory := opened.directory _ List.prefix_rfl
  have above {place : Location} :
      place.IsAbove file.path.location ↔ place <+: file.path.location.dropLast := by
    rw [location, List.dropLast_concat]
    exact Location.isAbove_concat
  have here : ready.lookup? file.path.location = disk.lookup? file.path.location :=
    opened.other _ fun start => (above.2 start).2 rfl
  have opens (place : Location) : ready.lookup? place =
      (if place.IsAbove file.path.location then some .directory else none).or
        (disk.lookup? place) := by
    split
    · rename_i isAbove
      exact opened.directory place (above.1 isAbove)
    · rename_i apart
      exact opened.other place (mt above.2 apart)
  rw [put, Disk.writeFile?_eq ordinary directory, ← here]
  by_cases room : file.path.endsInSeparator = false ∧ ready.Free file.path.location
  · rw [dif_pos room]
    refine ⟨by simp [room.1, room.2.2.2], fun place => ?_⟩
    rw [Disk.lookup?_place, opens, patch]
    by_cases there : place = file.path.location
    · simp [there]
    · simp [there, Ne.symm there]
  · rw [dif_neg room]
    have taken : file.path.endsInSeparator ∨
        ready.lookup? file.path.location = some .directory := by
      by_cases ends : file.path.endsInSeparator
      · exact .inl ends
      · have named : file.path.location ≠ [] := by simp [location]
        refine .inr (not_not.1 fun free => room ⟨by simpa using ends, named, directory, free⟩)
    exact ⟨(if_pos taken).symm, opens⟩

/-- The write of a file to an ordinary path ends as its verdict says, and leaves the disk with what
this puts on it. -/
theorem write_eq_verdict (ordinary : file.path.IsOrdinary) (disk : Disk) :
    (file.write disk).1 = file.verdict disk ∧
      ∀ place, (file.write disk).2.lookup? place =
        (file.patch (file.verdict disk) place).or (disk.lookup? place) := by
  obtain ⟨names, last, _, spelled, directory, location⟩ := ordinary.exists_concat
  have has := disk.contains_iff_has ordinary
  have named := (List.forall_mem_append.1 spelled.ordinary).1
  have short := Nat.le_trans spelled.utf8ByteSize_le ordinary.short
  have holder : file.path.location.dropLast = names.map Piece.text := by
    rw [location, List.dropLast_concat]
  unfold write verdict
  by_cases skip : file.rules.overwrite = .ifMissing ∧ disk.Has file.path
  · rw [if_pos ⟨skip.1, has.2 skip.2⟩, if_pos skip]
    exact ⟨rfl, fun place => rfl⟩
  · rw [if_neg fun found => skip ⟨found.1, has.1 found.2⟩, if_neg skip, spelled.parents_eq]
    by_cases blocked : disk.IsBlocked file.path.location.dropLast
    · rw [if_pos blocked]
      rw [holder] at blocked
      rcases List.eq_nil_or_concat' names with rfl | ⟨before, next, rfl⟩
      · exact absurd blocked disk.not_isBlocked_nil
      · have left := Disk.makeDirectories_of_isBlocked named short
          (Path.ofPieces (before ++ [next])).parents blocked
        simp only [left, directory]
        exact ⟨trivial, fun place => rfl⟩
    · rw [if_neg blocked]
      obtain ⟨ready, made, opened⟩ := Disk.makeDirectories_ofPieces named short (holder ▸ blocked)
      obtain ⟨ends, shown⟩ := put_of_hasOpened ordinary (holder ▸ opened)
      simp only [made]
      exact ⟨ends, ends ▸ shown⟩

/-- A file that is not put where it is to go has a directory there, or a separator at the end of its
path. -/
theorem of_verdict_write {path : Path} (failed : file.verdict disk = .error (.write path)) :
    file.path.endsInSeparator ∨ disk.lookup? file.path.location = some .directory := by
  unfold verdict at failed
  split at failed
  · cases failed
  split at failed
  · cases failed
  split at failed
  · assumption
  · cases failed

/-- A write that fails leaves the disk as it is, unless the path ends in a separator. -/
theorem write_of_error {error : WriteError} (ordinary : file.path.IsOrdinary)
    (bare : file.path.endsInSeparator = false) (failed : (file.write disk).1 = .error error) :
    (file.write disk).2 = disk := by
  obtain ⟨ends, shown⟩ := write_eq_verdict ordinary disk
  rw [ends] at failed
  apply Disk.ext_lookup?
  intro place
  rw [shown, failed]
  cases error with
  | create directory => rfl
  | write path =>
    -- The file is kept out by a directory in its place, and what is above that is one already.
    have there := (of_verdict_write failed).resolve_left (by simp [bare])
    rw [patch]
    split
    · rename_i isAbove
      exact (disk.lookup?_of_isAbove isAbove (by simp [there])).symm
    · rfl

end File

/-- The write of a file to an ordinary path is skipped, fails for its directory, fails for itself or
is done, by what is on the disk alone. A failure names the path right above or the path. It leaves
every file as it is, and adds directories only where nothing was, above a path that ends in a
separator. -/
theorem WriteRequest.write_outcome (request : WriteRequest) (disk : Disk)
    (ordinary : request.target.path.IsOrdinary) :
    (request.write disk).1 = request.target.verdict disk ∧
      request.target.path.parent? = some request.target.path.directory ∧
      (WriteError.create request.target.path.directory).message =
        "failed to create '" ++ "/".intercalate request.location.dropLast ++ "'" ∧
      (WriteError.write request.target.path).message =
        "failed to write '" ++ request.target.path.text ++ "'" ∧
      ∀ error, (request.write disk).1 = .error error →
        (∀ place, (request.write disk).2.content? place = disk.content? place) ∧
        (disk.HasGained (request.write disk).2 fun place => place.IsAbove request.location) ∧
        (request.target.path.endsInSeparator = false → (request.write disk).2 = disk) := by
  obtain ⟨parent, text⟩ := ordinary.parent?_eq
  have effect := request.effect disk ordinary.isSpelledBy.isDownward
  rw [request.write_eq] at effect ⊢
  have named := congrArg (fun text => "failed to create '" ++ text ++ "'") text
  refine ⟨(File.write_eq_verdict ordinary disk).1, parent, named, rfl, fun error failed => ?_⟩
  rw [failed] at effect
  have gained : disk.HasGained (request.target.write disk).2 fun place =>
      place.IsAbove request.location := by
    cases effect with
    | failed _ gained => exact gained
  exact ⟨gained.content?, gained, fun bare => File.write_of_error ordinary bare failed⟩

/-- A file in the way of a directory is named and kept, though a directory is what the path asks
for. -/
theorem WriteRequest.write_outcome_below :
    let source := Path.ofPieces [⟨"src", by decide⟩, ⟨"a.c", by decide⟩]
    let below := Path.ofPieces [⟨"src", by decide⟩, ⟨"a.c", by decide⟩, ⟨"b", by decide⟩, .empty]
    let disk := Disk.empty.afterWrites [.file ⟨source, "int x;\n", {}⟩]
    let request : WriteRequest := .file ⟨below, "", .stub⟩
    below.IsOrdinary ∧ (request.write disk).1 = .error (.create source) ∧
      (WriteError.create source).message = "failed to create 'src/a.c'" ∧
      (request.write disk).2.content? ["src", "a.c"] = some "int x;\n" := by
  intro source below disk request
  have ordinary : request.target.path.IsOrdinary := by decide
  obtain ⟨ends, _, _, _, kept⟩ := WriteRequest.write_outcome request disk ordinary
  have failed : (request.write disk).1 = .error (.create source) := ends.trans (by decide)
  exact ⟨ordinary, failed, by decide, (kept _ failed).1 _ |>.trans (by decide)⟩

end CSource
