import CSource.Disk.Reach
import CSource.Proofs.Path.Downward

/-!
# Growing disks

Directories are only ever added to a disk, where nothing stood before, and a file put on it takes
the place of a file at most. So a disk grows: what is a directory or a file on it stays one. Along
a path that goes down, a grown disk reaches whatever the disk reached before.
-/

namespace CSource.Disk

/-- The content of the file at a place. -/
def content? (disk : Disk) (location : Location) : Option String :=
  match disk.lookup? location with
  | some (.file content) => some content
  | _ => none

/-- There is content at a place if a file is there. -/
theorem content?_eq_some {disk : Disk} {location : Location} {content : String} :
    disk.content? location = some content ↔ disk.lookup? location = some (.file content) := by
  unfold content?
  split <;> simp_all

/-- Places with the same entry have the same content. -/
theorem content?_congr {disk other : Disk} {location : Location}
    (same : other.lookup? location = disk.lookup? location) :
    other.content? location = disk.content? location := by rw [content?, content?, same]

/-- A disk has grown from another if the directories of that one are directories on it, and the
files of that one are files on it. -/
structure HasGrown (disk grown : Disk) : Prop where
  /-- A directory stays a directory. -/
  directory : ∀ location, disk.lookup? location = some .directory →
    grown.lookup? location = some .directory
  /-- A file stays a file. -/
  file : ∀ location, (disk.content? location).isSome → (grown.content? location).isSome

namespace HasGrown

/-- A disk that stays as it is has grown. -/
theorem refl (disk : Disk) : disk.HasGrown disk := ⟨fun _ => id, fun _ => id⟩

/-- A disk that has grown twice has grown. -/
theorem trans {disk next last : Disk} (first : disk.HasGrown next) (second : next.HasGrown last) :
    disk.HasGrown last :=
  ⟨fun _ found => second.directory _ (first.directory _ found),
    fun _ found => second.file _ (first.file _ found)⟩

/-- Whatever is on a disk that grows stays there. -/
theorem isSome_lookup? {disk grown : Disk} (growth : disk.HasGrown grown) {location : Location}
    (found : (disk.lookup? location).isSome) : (grown.lookup? location).isSome := by
  obtain ⟨entry, found⟩ := Option.isSome_iff_exists.1 found
  cases entry with
  | directory => simp [growth.directory location found]
  | file content =>
    have kept := growth.file location (by simp [content?_eq_some.2 found])
    obtain ⟨later, kept⟩ := Option.isSome_iff_exists.1 kept
    simp [content?_eq_some.1 kept]

end HasGrown

/-- Everything above a place where something is, is a directory. -/
theorem lookup?_of_isAbove (disk : Disk) {above location : Location}
    (isAbove : above.IsAbove location) (found : (disk.lookup? location).isSome) :
    disk.lookup? above = some .directory := by
  obtain ⟨⟨rest, rfl⟩, apart⟩ := isAbove
  have inDirectory : ∀ names : Location, ∀ name,
      (disk.lookup? (names ++ [name])).isSome → disk.lookup? names = some .directory := by
    intro names name present
    obtain ⟨entry, present⟩ := Option.isSome_iff_exists.1 present
    simpa using disk.lookup?_dropLast present
  -- The names below are taken from the front, so that the place above moves down to the entry.
  induction rest generalizing above with
  | nil => exact absurd (List.append_nil _).symm apart
  | cons name names recurse =>
    rw [List.append_cons] at found apart
    by_cases last : names = []
    · rw [last, List.append_nil] at found
      exact inDirectory above name found
    · have below := recurse found (by simpa using last)
      exact inDirectory above name (by simp [below])

/-! ## Following paths -/

/-- A first piece that does not go up is followed from a directory: it leads nowhere, or to the
place of its name below, if that is not too long. -/
theorem follow_cons_iff {disk : Disk} {start place : Location} {piece : Piece} {pieces : List Piece}
    (notUp : piece ≠ .up) : disk.follow start (piece :: pieces) = .ok place ↔
      disk.lookup? start = some .directory ∧
        (piece.isIdle = true ∧ disk.follow start pieces = .ok place ∨
          piece.isIdle = false ∧ piece.fits ∧
            disk.follow (start ++ [piece.text]) pieces = .ok place) := by
  rw [follow]
  split
  · rename_i absent
    simp [absent]
  · rename_i file
    simp [file]
  · rename_i directory
    cases idle : piece.isIdle <;> cases fits : piece.fits <;> simp [directory, notUp]

/-- Pieces that do not go up lead to the place of their names. -/
theorem eq_of_follow {disk : Disk} {start place : Location} {pieces : List Piece}
    (down : .up ∉ pieces) (followed : disk.follow start pieces = .ok place) :
    place = start ++ Piece.names pieces := by
  induction pieces generalizing start with
  | nil => simpa [follow] using followed.symm
  | cons piece pieces recurse =>
    obtain ⟨notUp, later⟩ := List.ne_and_not_mem_of_not_mem_cons down
    rcases ((follow_cons_iff notUp.symm).1 followed).2 with ⟨idle, below⟩ | ⟨name, _, below⟩
    · rw [Piece.names_cons_idle idle, recurse later below]
    · rw [Piece.names_cons_name name, recurse later below, List.append_assoc]
      rfl

/-- Pieces that do not go up lead to the same place on two disks, if each directory on the way
there on one disk is a directory on the other. -/
theorem follow_of_follow {disk other : Disk} {start place : Location} {pieces : List Piece}
    (down : .up ∉ pieces) (followed : disk.follow start pieces = .ok place)
    (directories : ∀ above, above <+: place → disk.lookup? above = some .directory →
      other.lookup? above = some .directory) : other.follow start pieces = .ok place := by
  induction pieces generalizing start with
  | nil => simpa [follow] using followed
  | cons piece pieces recurse =>
    -- Where the pieces lead is known from their names, so that every start is on the way there.
    have onTheWay : start <+: place := by
      rw [eq_of_follow down followed]
      exact List.prefix_append _ _
    obtain ⟨notUp, later⟩ := List.ne_and_not_mem_of_not_mem_cons down
    obtain ⟨directory, step⟩ := (follow_cons_iff notUp.symm).1 followed
    refine (follow_cons_iff notUp.symm).2 ⟨directories start onTheWay directory, ?_⟩
    rcases step with ⟨idle, below⟩ | ⟨name, fits, below⟩
    · exact .inl ⟨idle, recurse later below⟩
    · exact .inr ⟨name, fits, recurse later below⟩

/-- A disk contains a path that goes down if the path can be asked for and followed, and something
is at its place. -/
theorem contains_iff (disk : Disk) {path : Path} (down : path.IsDownward) :
    disk.contains path ↔ path.isAddress ∧ disk.follow [] path.pieces = .ok path.location ∧
      (disk.lookup? path.location).isSome := by
  unfold contains reach?
  split
  · rename_i address
    split
    · rename_i place followed
      have there : place = path.location := eq_of_follow down followed
      simp [address, followed, there]
    · rename_i failed
      simp [failed]
  · rename_i noAddress
    simp [noAddress]

/-- A disk that grows contains the paths that it contained. -/
theorem HasGrown.contains {disk grown : Disk} (growth : disk.HasGrown grown) {path : Path}
    (down : path.IsDownward) (contained : disk.contains path) : grown.contains path := by
  obtain ⟨address, followed, found⟩ := (disk.contains_iff down).1 contained
  exact (grown.contains_iff down).2 ⟨address,
    follow_of_follow down followed fun above _ => growth.directory above,
    growth.isSome_lookup? found⟩

/-! ## Making directories -/

/-- A disk has gained directories at some places if every place is as before, or is one of these
and has a directory where nothing was. -/
def HasGained (disk ready : Disk) (places : Location → Prop) : Prop :=
  ∀ location, ready.lookup? location = disk.lookup? location ∨
    places location ∧ disk.lookup? location = none ∧ ready.lookup? location = some .directory

namespace HasGained

variable {disk ready : Disk} {places : Location → Prop}

/-- A disk that stays as it is gains nothing. -/
theorem refl (disk : Disk) (places : Location → Prop) : disk.HasGained disk places :=
  fun _ => .inl rfl

/-- What is gained in two steps is gained. -/
theorem trans {last : Disk} (first : disk.HasGained ready places)
    (second : ready.HasGained last places) : disk.HasGained last places := by
  intro location
  rcases second location with same | ⟨place, absent, directory⟩
  · rw [same]
    exact first location
  · rcases first location with same | ⟨_, _, made⟩
    · exact .inr ⟨place, by rw [← same, absent], directory⟩
    · simp [made] at absent

/-- Directories at some places are directories at more places. -/
theorem mono {more : Location → Prop} (gained : disk.HasGained ready places)
    (weaker : ∀ location, disk.lookup? location = none → places location → more location) :
    disk.HasGained ready more := by
  intro location
  rcases gained location with same | ⟨place, absent, directory⟩
  · exact .inl same
  · exact .inr ⟨weaker location absent place, absent, directory⟩

/-- Making directories leaves the files as they are. -/
theorem content? (gained : disk.HasGained ready places) (location : Location) :
    ready.content? location = disk.content? location := by
  rcases gained location with same | ⟨_, absent, directory⟩
  · exact content?_congr same
  · simp [Disk.content?, absent, directory]

/-- A disk that gains directories grows. -/
theorem hasGrown (gained : disk.HasGained ready places) : disk.HasGrown ready where
  directory location found := by
    rcases gained location with same | ⟨_, _, directory⟩
    · rw [same, found]
    · exact directory
  file location found := by rwa [gained.content? location]

end HasGained

/-- Making a directory at a path that goes down adds it at the place of the path. -/
theorem hasGained_of_makeDirectory {disk made : Disk} {path : Path} (down : path.IsDownward)
    (success : disk.makeDirectory path = .ok made) :
    disk.HasGained made fun location => location = path.location := by
  unfold makeDirectory at success
  split at success
  · cases success
  split at success
  · split at success
    · cases success
    · rename_i place followed
      have there : place = path.location :=
        (eq_of_follow (down ∘ Piece.mem_of_mem_trimmed) followed).trans (Piece.names_trimmed _)
      split at success
      · cases success
      · rename_i absent
        split at success
        · cases success
          intro location
          rw [lookup?_place]
          split
          · rename_i same
            exact .inr ⟨by rw [← same, there], by simpa [← same] using absent, rfl⟩
          · exact .inl rfl
        · cases success
  · cases success

/-- Making the directories at some paths that go down adds directories at places of these. -/
theorem hasGained_makeDirectories (disk : Disk) {paths : List Path}
    (down : ∀ path ∈ paths, path.IsDownward) :
    disk.HasGained (disk.makeDirectories paths).2
      fun location => ∃ path ∈ paths, location = path.location := by
  induction paths with
  | nil => exact HasGained.refl _ _
  | cons path above recurse =>
    -- The directory of the first path is made at once, or after those above it.
    have here : ∀ {start made : Disk}, start.makeDirectory path = .ok made →
        start.HasGained made fun location => ∃ path' ∈ path :: above, location = path'.location :=
      fun success => (hasGained_of_makeDirectory (down path List.mem_cons_self) success).mono
        fun _ _ place => ⟨path, List.mem_cons_self, place⟩
    have before : disk.HasGained (disk.makeDirectories above).2
        fun location => ∃ path' ∈ path :: above, location = path'.location :=
      (recurse fun path' mem => down path' (List.mem_cons_of_mem _ mem)).mono
        fun _ _ ⟨path', mem, place⟩ => ⟨path', List.mem_cons_of_mem _ mem, place⟩
    rw [makeDirectories]
    split
    · exact HasGained.refl _ _
    · split
      · rename_i success
        exact here success
      · split
        · rename_i left failed
          rwa [failed] at before
        · rename_i ready made
          rw [made] at before
          split
          · rename_i success
            exact before.trans (here success)
          · exact before
      · exact HasGained.refl _ _

/-! ## Writing files -/

/-- A file has been put at the place of a path: the path was followed to it, no directory was there,
and the rest of the disk is as before. -/
structure HasReceived (disk : Disk) (path : Path) (content : String) (done : Disk) : Prop where
  /-- The path can be asked for. -/
  address : path.isAddress
  /-- The path leads to its place. -/
  followed : disk.follow [] path.pieces = .ok path.location
  /-- No directory is replaced. -/
  noDirectory : disk.lookup? path.location ≠ some .directory
  /-- The file is at the place, and nothing else has changed. -/
  lookup : ∀ location, done.lookup? location
    = if path.location = location then some (.file content) else disk.lookup? location

/-- A file that is written to a path that goes down is at the place of the path. -/
theorem hasReceived_of_writeFile? {disk done : Disk} {path : Path} {content : String}
    (down : path.IsDownward) (written : disk.writeFile? path content = some done) :
    disk.HasReceived path content done := by
  unfold writeFile? at written
  split at written
  · rename_i allowed
    have address : path.isAddress := (Bool.and_eq_true_iff.1 allowed).1
    split at written
    · cases written
    · rename_i place followed
      obtain rfl : place = path.location := eq_of_follow down followed
      split at written
      · rename_i free
        obtain rfl := Option.some.inj written
        exact ⟨address, followed, free.2.2, fun location => disk.lookup?_place _ free location⟩
      · cases written
  · cases written

namespace HasReceived

variable {disk ready done : Disk} {path : Path} {content : String}

/-- The content of a file that is put at a place is found there, and all other contents as they
were. -/
theorem content?_eq (received : disk.HasReceived path content done) (location : Location) :
    done.content? location = if path.location = location then some content
      else disk.content? location := by
  by_cases there : path.location = location
  · rw [if_pos there, content?_eq_some, received.lookup, if_pos there]
  · rw [if_neg there]
    exact content?_congr (by rw [received.lookup, if_neg there])

/-- A disk that receives a file grows. -/
theorem hasGrown (received : disk.HasReceived path content done) : disk.HasGrown done where
  directory location found := by
    rw [received.lookup, if_neg]
    · exact found
    · rintro rfl
      exact received.noDirectory found
  file location found := by
    rw [received.content?_eq]
    split
    · rfl
    · exact found

/-- A disk contains a path that leads to a file on it, if another disk can receive a file there:
the names on the way are those of directories then, and none of them is the file. -/
theorem contains_of_content? (down : path.IsDownward)
    (received : ready.HasReceived path content done)
    (file : (disk.content? path.location).isSome) : disk.contains path := by
  obtain ⟨old, file⟩ := Option.isSome_iff_exists.1 file
  have found : disk.lookup? path.location = some (.file old) := content?_eq_some.1 file
  refine (disk.contains_iff down).2 ⟨received.address, ?_, by simp [found]⟩
  -- The disks need not be related: whatever is above a file is a directory on its own disk.
  refine follow_of_follow down received.followed fun above onTheWay directory => ?_
  apply disk.lookup?_of_isAbove ⟨onTheWay, ?_⟩ (by simp [found])
  rintro rfl
  exact received.noDirectory directory

end HasReceived
end CSource.Disk
