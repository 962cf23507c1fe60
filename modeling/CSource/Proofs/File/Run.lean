import CSource.File.Generated
import CSource.Proofs.Disk.Growth

/-!
# Runs of writes

Files and generated files are written one after the other, in any order and under any rules, to
paths that go down. One write is skipped and leaves the disk as it is, or puts its text at the place
of its path, or fails; a write that is not skipped may add directories above its place
(`File.write_effect`). What holds of the disk after a whole run follows from that: nothing is
removed, what has to stay as it is stays so, and everything that is new comes from a write of the
run (`Disk.isAccountedFor`).
-/

namespace CSource

/-! ## One write -/

namespace File

/-- What the write of a file may do to a disk. -/
inductive Effect (file : File) (disk : Disk) : Except WriteError WriteOutcome → Disk → Prop where
  /-- The file is left alone. -/
  | skipped (stub : file.rules.overwrite = .ifMissing) (contained : disk.contains file.path) :
    Effect file disk (.ok .skipped) disk
  /-- Directories are made above the place of the file, and it is written there. -/
  | written {ready done : Disk}
    (due : ¬(file.rules.overwrite = .ifMissing ∧ disk.contains file.path))
    (gained : disk.HasGained ready fun location => location.IsAbove file.path.location)
    (received : ready.HasReceived file.path file.written done) :
    Effect file disk (.ok .written) done
  /-- Directories are made above the place of the file, and then the write fails. -/
  | failed {error : WriteError} {left : Disk}
    (due : ¬(file.rules.overwrite = .ifMissing ∧ disk.contains file.path))
    (gained : disk.HasGained left fun location => location.IsAbove file.path.location) :
    Effect file disk (.error error) left

/-- Making the directories above a path that goes down adds directories above its place. -/
theorem hasGained_parents (disk : Disk) {path : Path} (down : path.IsDownward) :
    disk.HasGained (disk.makeDirectories path.parents).2
      fun location => location.IsAbove path.location := by
  have gained := disk.hasGained_makeDirectories fun above mem => (Path.of_mem_parents down mem).1
  refine gained.mono ?_
  rintro location absent ⟨above, mem, rfl⟩
  rcases (Path.of_mem_parents down mem).2 with top | isAbove
  · simp [top] at absent
  · exact isAbove

/-- Once the directories above the place of a file are made, putting it there is a write or a
failure. -/
theorem effect_put {file : File} {disk ready : Disk} (down : file.path.IsDownward)
    (due : ¬(file.rules.overwrite = .ifMissing ∧ disk.contains file.path))
    (gained : disk.HasGained ready fun location => location.IsAbove file.path.location) :
    file.Effect disk (file.put ready).1 (file.put ready).2 := by
  unfold put
  split
  · rename_i done written
    exact .written due gained (Disk.hasReceived_of_writeFile? down written)
  · exact .failed due gained

/-- The write of a file to a path that goes down is skipped, done or fails. -/
theorem write_effect (file : File) (disk : Disk) (down : file.path.IsDownward) :
    file.Effect disk (file.write disk).1 (file.write disk).2 := by
  have gained := hasGained_parents disk down
  unfold write
  split
  · rename_i skip
    exact .skipped skip.1 skip.2
  · rename_i due
    split
    · exact effect_put down due (.refl _ _)
    · rename_i parents
      rw [parents] at gained
      split
      · rename_i ready made
        rw [made] at gained
        exact effect_put down due gained
      · rename_i left failed
        rw [failed] at gained
        exact .failed due gained

namespace Effect

variable {file : File} {disk left : Disk} {outcome : Except WriteError WriteOutcome}

/-- The disk grows with a write. -/
theorem hasGrown (effect : file.Effect disk outcome left) : disk.HasGrown left := by
  cases effect with
  | skipped => exact .refl disk
  | written _ gained received => exact gained.hasGrown.trans received.hasGrown
  | failed _ gained => exact gained.hasGrown

/-- A directory after a write was there before or is above the place of the file. -/
theorem directory (effect : file.Effect disk outcome left) {location : Location}
    (found : left.lookup? location = some .directory) :
    disk.lookup? location = some .directory ∨ location.IsAbove file.path.location := by
  have of_gained : ∀ {ready : Disk},
      (disk.HasGained ready fun location => location.IsAbove file.path.location) →
      ready.lookup? location = some .directory →
      disk.lookup? location = some .directory ∨ location.IsAbove file.path.location := by
    intro ready gained made
    rcases gained location with same | ⟨isAbove, _⟩
    · exact .inl (same ▸ made)
    · exact .inr isAbove
  cases effect with
  | skipped => exact .inl found
  | written _ gained received =>
    rw [received.lookup] at found
    split at found
    · cases found
    · exact of_gained gained found
  | failed _ gained => exact of_gained gained found

/-- A file that is only created if it is missing is not written where a file is. -/
theorem ne_written (effect : file.Effect disk outcome left)
    (stub : file.rules.overwrite = .ifMissing)
    (present : (disk.content? file.path.location).isSome) (down : file.path.IsDownward) :
    outcome ≠ .ok .written := by
  rintro rfl
  cases effect with
  | written due _ received =>
    exact due ⟨stub, Disk.HasReceived.contains_of_content? down received present⟩

end Effect

/-- The line of the header and the content, or the content alone. -/
theorem written_eq (file : File) :
    file.written = (file.rules.header.map (· ++ "\n")).getD "" ++ file.content := by
  unfold written
  split <;> simp [*]

end File

/-! ## Requests -/

/-- A request for a write: of a file, or of anything that is rendered to a file below a
directory. -/
inductive WriteRequest : Type 1 where
  /-- A file is written. -/
  | file (file : File)
  /-- A generated file is written below a directory. -/
  | generated {α : Type} [Generated α] (source : α) (base : Path)

namespace WriteRequest

/-- How the requested write ends, and the disk after it. -/
def write : WriteRequest → Disk → Except WriteError WriteOutcome × Disk
  | file given, disk => given.write disk
  | @generated _ _ source base, disk => Generated.write source base disk

/-- The file that is written. -/
def target : WriteRequest → File
  | file given => given
  | @generated _ _ source base => Generated.file source base

/-- The place that is written to. -/
def location (request : WriteRequest) : Location := request.target.path.location

/-- The header and a line break before the content, or the content alone without a header. -/
def text (request : WriteRequest) : String :=
  (request.target.rules.header.map (· ++ "\n")).getD "" ++ request.target.content

/-- The text that the write puts at a place, if it returns that the file was written. -/
def wrote? (request : WriteRequest) (location : Location) (disk : Disk) : Option String :=
  match (request.write disk).1 with
  | .ok .written => if request.location = location then some request.text else none
  | _ => none

/-- A request is for the write of its file. -/
theorem write_eq (request : WriteRequest) (disk : Disk) :
    request.write disk = request.target.write disk := by cases request <;> rfl

/-- A requested write is skipped, done or fails. -/
theorem effect (request : WriteRequest) (disk : Disk) (down : request.target.path.IsDownward) :
    request.target.Effect disk (request.write disk).1 (request.write disk).2 := by
  rw [write_eq]
  exact request.target.write_effect disk down

/-- After a write, a place has the text that was written to it, or the content it had. -/
theorem content?_write (request : WriteRequest) (disk : Disk)
    (down : request.target.path.IsDownward) (location : Location) :
    (request.write disk).2.content? location
      = (request.wrote? location disk).or (disk.content? location) := by
  have effect := request.effect disk down
  unfold wrote?
  generalize (request.write disk).1 = outcome, (request.write disk).2 = left at effect ⊢
  cases effect with
  | skipped => rfl
  | written _ gained received =>
    have content : left.content? location
        = if request.location = location then some request.text else disk.content? location := by
      rw [received.content?_eq, gained.content?, File.written_eq]
      rfl
    rw [content]
    dsimp only
    split <;> rfl
  | failed _ gained => exact gained.content? location

/-- A write to another place writes nothing to a place. -/
theorem wrote?_of_ne {request : WriteRequest} {location : Location}
    (elsewhere : request.location ≠ location) (disk : Disk) :
    request.wrote? location disk = none := by
  unfold wrote?
  split
  · exact if_neg elsewhere
  · rfl

/-- Nothing is written to a place with content, unless an existing file may be written anew. -/
theorem wrote?_of_content? {request : WriteRequest} {location : Location} {disk : Disk}
    (down : request.target.path.IsDownward)
    (stub : request.location = location → request.target.rules.overwrite = .ifMissing)
    (present : (disk.content? location).isSome) : request.wrote? location disk = none := by
  by_cases there : request.location = location
  · subst there
    have untouched := (request.effect disk down).ne_written (stub rfl) present down
    unfold wrote?
    split
    · rename_i written
      exact absurd written untouched
    · rfl
  · exact wrote?_of_ne there disk

/-- A write that only creates what is missing is skipped on a disk that contains the path. -/
theorem write_of_contains {request : WriteRequest} {disk : Disk}
    (stub : request.target.rules.overwrite = .ifMissing)
    (contained : disk.contains request.target.path) :
    request.write disk = (.ok .skipped, disk) := by
  rw [write_eq, File.write, if_pos ⟨stub, contained⟩]

end WriteRequest

/-! ## Whole runs -/

namespace Disk

/-- The disk after some writes. -/
def afterWrites (disk : Disk) : List WriteRequest → Disk
  | [] => disk
  | request :: others => (request.write disk).2.afterWrites others

/-- The texts that some writes put at a place, those of the writes that return that the file was
written, in order. -/
def writtenTo (disk : Disk) (location : Location) : List WriteRequest → List String
  | [] => []
  | request :: others =>
    (request.wrote? location disk).toList ++ (request.write disk).2.writtenTo location others

variable {disk : Disk} {location : Location} {requests : List WriteRequest}

/-- Writes in a row are the first ones and then the others. -/
theorem afterWrites_append (disk : Disk) (before after : List WriteRequest) :
    disk.afterWrites (before ++ after) = (disk.afterWrites before).afterWrites after := by
  induction before generalizing disk with
  | nil => rfl
  | cons request others recurse => exact recurse _

/-- The disk grows with a run. -/
theorem hasGrown_afterWrites (down : ∀ request ∈ requests, request.target.path.IsDownward) :
    disk.HasGrown (disk.afterWrites requests) := by
  induction requests generalizing disk with
  | nil => exact .refl disk
  | cons request others recurse =>
    obtain ⟨here, later⟩ := List.forall_mem_cons.1 down
    exact (request.effect disk here).hasGrown.trans (recurse later)

/-- After a run, a place has the text that was last written to it, or the content it had. -/
theorem content?_afterWrites (down : ∀ request ∈ requests, request.target.path.IsDownward) :
    (disk.afterWrites requests).content? location
      = (disk.writtenTo location requests).getLast?.or (disk.content? location) := by
  induction requests generalizing disk with
  | nil => rfl
  | cons request others recurse =>
    obtain ⟨here, later⟩ := List.forall_mem_cons.1 down
    rw [afterWrites, recurse later, request.content?_write disk here, writtenTo,
      List.getLast?_append, Option.or_assoc]
    cases request.wrote? location disk <;> rfl

/-- Nothing is written to a place that is not asked for. -/
theorem writtenTo_of_ne (elsewhere : ∀ request ∈ requests, request.location ≠ location) :
    disk.writtenTo location requests = [] := by
  induction requests generalizing disk with
  | nil => rfl
  | cons request others recurse =>
    obtain ⟨here, later⟩ := List.forall_mem_cons.1 elsewhere
    rw [writtenTo, WriteRequest.wrote?_of_ne here, recurse later]
    rfl

section Stubs

variable (down : ∀ request ∈ requests, request.target.path.IsDownward)
  (stubs : ∀ request ∈ requests, request.location = location →
    request.target.rules.overwrite = .ifMissing)
include down stubs

/-- Nothing is written to a place with content by writes that only create what is missing. -/
theorem writtenTo_of_content? (present : (disk.content? location).isSome) :
    disk.writtenTo location requests = [] := by
  induction requests generalizing disk with
  | nil => rfl
  | cons request others recurse =>
    obtain ⟨downHere, downLater⟩ := List.forall_mem_cons.1 down
    obtain ⟨stubHere, stubsLater⟩ := List.forall_mem_cons.1 stubs
    have kept := (request.effect disk downHere).hasGrown.file location present
    rw [writtenTo, WriteRequest.wrote?_of_content? downHere stubHere present,
      recurse downLater stubsLater kept]
    rfl

/-- Writes that only create what is missing write to a place once at most. -/
theorem length_writtenTo_le_one (disk : Disk) :
    (disk.writtenTo location requests).length ≤ 1 := by
  induction requests generalizing disk with
  | nil => exact Nat.zero_le 1
  | cons request others recurse =>
    obtain ⟨downHere, downLater⟩ := List.forall_mem_cons.1 down
    obtain ⟨stubHere, stubsLater⟩ := List.forall_mem_cons.1 stubs
    have next := request.content?_write disk downHere location
    rw [writtenTo]
    cases wrote : request.wrote? location disk with
    | none => simpa using recurse downLater stubsLater (request.write disk).2
    | some text =>
      rw [wrote] at next
      rw [writtenTo_of_content? downLater stubsLater (by simp [next])]
      simp

/-- After writes that only create what is missing, a place has the content it had, or the text that
was first written to it. -/
theorem content?_afterWrites_of_stubs :
    (disk.afterWrites requests).content? location
      = (disk.content? location).or (disk.writtenTo location requests).head? := by
  rw [content?_afterWrites down]
  cases present : disk.content? location with
  | some content => rw [writtenTo_of_content? down stubs (by simp [present])]; rfl
  | none =>
    have once := length_writtenTo_le_one down stubs disk
    match texts : disk.writtenTo location requests with
    | [] => rfl
    | [text] => rfl
    | _ :: _ :: _ => simp [texts] at once

end Stubs

/-- A directory after a run was there before or is above a place that was asked for. -/
theorem directory_of_afterWrites (down : ∀ request ∈ requests, request.target.path.IsDownward)
    (found : (disk.afterWrites requests).lookup? location = some .directory) :
    disk.lookup? location = some .directory ∨
      ∃ request ∈ requests, location.IsAbove request.location := by
  induction requests generalizing disk with
  | nil => exact .inl found
  | cons request others recurse =>
    obtain ⟨here, later⟩ := List.forall_mem_cons.1 down
    rcases recurse later found with before | ⟨other, mem, isAbove⟩
    · rcases (request.effect disk here).directory before with initial | isAbove
      · exact .inl initial
      · exact .inr ⟨request, List.mem_cons_self, isAbove⟩
    · exact .inr ⟨other, List.mem_cons_of_mem _ mem, isAbove⟩

/-- What is on a disk after some writes is accounted for, by what was on it and by the writes. -/
structure IsAccountedFor (disk : Disk) (requests : List WriteRequest) : Prop where
  /-- No file and no directory is ever removed. -/
  kept : ∀ before after, requests = before ++ after →
    (disk.afterWrites before).HasGrown (disk.afterWrites requests)
  /-- A place that no write asks for keeps its content. -/
  untouched : ∀ location, (∀ request ∈ requests, request.location ≠ location) →
    (disk.afterWrites requests).content? location = disk.content? location
  /-- Once a path exists, a write to it that only creates what is missing is skipped. -/
  skipped : ∀ before after, requests = before ++ after → ∀ request : WriteRequest,
    request.target.path.IsDownward → request.target.rules.overwrite = .ifMissing →
    (disk.afterWrites before).contains request.target.path →
    request.write (disk.afterWrites requests) = (.ok .skipped, disk.afterWrites requests)
  /-- If all writes to a place only create what is missing, it has its initial content or else the
  first text that was written to it, and keeps what it has. -/
  created : ∀ location, (∀ request ∈ requests, request.location = location →
      request.target.rules.overwrite = .ifMissing) →
    (disk.afterWrites requests).content? location
        = (disk.content? location).or (disk.writtenTo location requests).head? ∧
      ∀ before after content, requests = before ++ after →
        (disk.afterWrites before).content? location = some content →
        (disk.afterWrites requests).content? location = some content
  /-- A place has the last text that was written to it or else its initial content. -/
  latest : ∀ location, (disk.afterWrites requests).content? location
    = (disk.writtenTo location requests).getLast?.or (disk.content? location)
  /-- The directories that are added are above places that writes ask for. -/
  directories : ∀ location, (disk.afterWrites requests).lookup? location = some .directory →
    disk.lookup? location = some .directory ∨
      ∃ request ∈ requests, location.IsAbove request.location

/-- After any writes to paths that go down, whatever is on a disk is accounted for. -/
theorem isAccountedFor (disk : Disk) (requests : List WriteRequest)
    (down : ∀ request ∈ requests, request.target.path.IsDownward) :
    disk.IsAccountedFor requests where
  kept before after split := by
    subst split
    rw [afterWrites_append]
    exact hasGrown_afterWrites (List.forall_mem_append.1 down).2
  untouched location elsewhere := by
    rw [content?_afterWrites down, writtenTo_of_ne elsewhere]
    rfl
  skipped before after split request downHere stub contained := by
    subst split
    have growth : (disk.afterWrites before).HasGrown (disk.afterWrites (before ++ after)) := by
      rw [afterWrites_append]
      exact hasGrown_afterWrites (List.forall_mem_append.1 down).2
    exact WriteRequest.write_of_contains stub (growth.contains downHere contained)
  created location stubs := by
    refine ⟨content?_afterWrites_of_stubs down stubs, ?_⟩
    rintro before after content rfl present
    rw [afterWrites_append, content?_afterWrites_of_stubs (List.forall_mem_append.1 down).2
      (List.forall_mem_append.1 stubs).2, present]
    rfl
  latest location := content?_afterWrites down
  directories location := directory_of_afterWrites down

/-- A file that is only created if it is missing keeps its text, whatever is asked for after it is
written. -/
theorem isAccountedFor_created :
    let source := Path.ofPieces [⟨"src", by decide⟩, ⟨"a.c", by decide⟩]
    let below := Path.ofPieces [⟨"a.c", by decide⟩, ⟨"b.c", by decide⟩]
    let requests : List WriteRequest :=
      [.file ⟨source, "int x;\n", .stub⟩, .generated (⟨below, ""⟩ : TextFile) (.ofText "src"),
        .file ⟨source, "int y;\n", .stub⟩]
    Disk.empty.IsAccountedFor requests ∧
      (Disk.empty.afterWrites requests).content? ["src", "a.c"] = some "int x;\n" :=
  ⟨isAccountedFor _ _ (by decide), by decide⟩

end Disk
end CSource
