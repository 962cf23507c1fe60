import Mathlib.Data.List.Pairwise
import CSource.Proofs.File.Outcome

/-!
# Order of writes

Writes to ordinary paths that are unrelated, none of them leading to a place above another's, do not
see each other. What is above both may be made by either, but is a directory then and no obstacle.
So each write ends as it would alone, and the disk after all of them does not depend on their order
(`Disk.writes_commute`).
-/

namespace CSource

/-- Whether two places differ and neither is above the other. -/
structure Location.IsUnrelated (left right : Location) : Prop where
  /-- The places differ. -/
  differ : left ≠ right
  /-- The first is not above the second. -/
  notAbove : ¬left.IsAbove right
  /-- The second is not above the first. -/
  notBelow : ¬right.IsAbove left

instance (left right : Location) : Decidable (left.IsUnrelated right) :=
  decidable_of_iff (left ≠ right ∧ ¬left.IsAbove right ∧ ¬right.IsAbove left)
    ⟨fun ⟨differ, notAbove, notBelow⟩ => ⟨differ, notAbove, notBelow⟩,
      fun ⟨differ, notAbove, notBelow⟩ => ⟨differ, notAbove, notBelow⟩⟩

/-- Two places are unrelated whichever is named first. -/
theorem Location.IsUnrelated.symm {left right : Location} (apart : left.IsUnrelated right) :
    right.IsUnrelated left := ⟨apart.differ.symm, apart.notBelow, apart.notAbove⟩

namespace File

variable {file first second : File} {disk : Disk} {place : Location}

/-- A write puts nothing at a place that is unrelated to its own. -/
theorem patch_of_isUnrelated (apart : file.path.location.IsUnrelated place)
    (outcome : Except WriteError WriteOutcome) : file.patch outcome place = none := by
  have elsewhere := apart.differ.symm
  have notAbove := apart.notBelow
  unfold patch
  split <;> simp [elsewhere, notAbove]

/-- Apart from the file itself a write puts directories only. -/
theorem patch_of_ne (elsewhere : place ≠ file.path.location)
    (outcome : Except WriteError WriteOutcome) :
    file.patch outcome place = none ∨ file.patch outcome place = some .directory := by
  unfold patch
  split
  · by_cases isAbove : place.IsAbove file.path.location <;> simp [elsewhere, isAbove]
  · by_cases isAbove : place.IsAbove file.path.location <;> simp [isAbove]
  · exact .inl rfl
  · exact .inl rfl

/-- What is at an unrelated place is there after a write as before. -/
theorem lookup?_write (ordinary : file.path.IsOrdinary) (disk : Disk)
    (apart : file.path.location.IsUnrelated place) :
    (file.write disk).2.lookup? place = disk.lookup? place := by
  rw [(write_eq_verdict ordinary disk).2, patch_of_isUnrelated apart]
  rfl

/-- Files stand in the way of an unrelated place after a write as before. -/
theorem isBlocked_write_iff (ordinary : file.path.IsOrdinary) (disk : Disk)
    (apart : file.path.location.IsUnrelated place) :
    (file.write disk).2.IsBlocked place.dropLast ↔ disk.IsBlocked place.dropLast := by
  have same (above : Location) (start : above <+: place.dropLast) :
      (file.write disk).2.content? above = disk.content? above := by
    have elsewhere : (WriteRequest.file file).location ≠ above := by
      rintro rfl
      exact apart.notAbove ⟨start.trans (List.dropLast_prefix place), apart.differ⟩
    have down := ordinary.isSpelledBy.isDownward
    have content := (WriteRequest.file file).content?_write disk down above
    rwa [WriteRequest.wrote?_of_ne elsewhere] at content
  exact exists_congr fun above => and_congr_right fun start => by rw [same above start]

/-- A write ends after an unrelated one as it would before. -/
theorem verdict_write (ordinary : first.path.IsOrdinary)
    (apart : first.path.location.IsUnrelated second.path.location) (disk : Disk) :
    second.verdict (first.write disk).2 = second.verdict disk := by
  have looked := lookup?_write ordinary disk apart
  have has : (first.write disk).2.Has second.path ↔ disk.Has second.path := by
    rw [Disk.Has, Disk.Has, looked]
  simp only [verdict, has, looked, isBlocked_write_iff ordinary disk apart]

/-- What two unrelated writes put on a disk is the same in either order. -/
theorem patch_or_patch (apart : first.path.location.IsUnrelated second.path.location)
    (one other : Except WriteError WriteOutcome) (place : Location) (before : Option Entry) :
    (second.patch other place).or ((first.patch one place).or before) =
      (first.patch one place).or ((second.patch other place).or before) := by
  by_cases atFirst : place = first.path.location
  · rw [atFirst, patch_of_isUnrelated apart.symm]
    rfl
  by_cases atSecond : place = second.path.location
  · rw [atSecond, patch_of_isUnrelated apart]
    rfl
  -- What both of them put is above both, so that it is a directory.
  rcases patch_of_ne atFirst one with absent | directory
  · simp [absent]
  · rcases patch_of_ne atSecond other with absent | other
    · simp [absent]
    · simp [directory, other]

/-- Two unrelated writes leave the same disk in either order. -/
theorem write_comm (one : first.path.IsOrdinary) (other : second.path.IsOrdinary)
    (apart : first.path.location.IsUnrelated second.path.location) (disk : Disk) :
    (second.write (first.write disk).2).2 = (first.write (second.write disk).2).2 := by
  apply Disk.ext_lookup?
  intro place
  rw [(write_eq_verdict other _).2, (write_eq_verdict one disk).2, (write_eq_verdict one _).2,
    (write_eq_verdict other disk).2, verdict_write one apart, verdict_write other apart.symm]
  exact patch_or_patch apart _ _ place _

end File

namespace WriteRequest

variable {first second : WriteRequest}

/-- Whether the places that two requests ask for are unrelated. -/
def IsUnrelated (first second : WriteRequest) : Prop :=
  first.location.IsUnrelated second.location

/-- A requested write ends after an unrelated one as it would before. -/
theorem write_fst_write (one : first.target.path.IsOrdinary) (other : second.target.path.IsOrdinary)
    (apart : first.IsUnrelated second) (disk : Disk) :
    (second.write (first.write disk).2).1 = (second.write disk).1 := by
  simp only [write_eq, (File.write_eq_verdict other _).1]
  exact File.verdict_write one apart disk

/-- Two unrelated requests leave the same disk in either order. -/
theorem write_snd_write (one : first.target.path.IsOrdinary) (other : second.target.path.IsOrdinary)
    (apart : first.IsUnrelated second) (disk : Disk) :
    (second.write (first.write disk).2).2 = (first.write (second.write disk).2).2 := by
  simp only [write_eq]
  exact File.write_comm one other apart disk

end WriteRequest

namespace Disk

/-- How some writes end, each on the disk that those before it leave. -/
def outcomes (disk : Disk) : List WriteRequest → List (Except WriteError WriteOutcome)
  | [] => []
  | request :: others => (request.write disk).1 :: (request.write disk).2.outcomes others

/-- The disk after some writes is that after one write at a time. -/
theorem afterWrites_eq_foldl (disk : Disk) (requests : List WriteRequest) :
    disk.afterWrites requests =
      requests.foldl (fun disk request => (request.write disk).2) disk := by
  induction requests generalizing disk with
  | nil => rfl
  | cons request others recurse => exact recurse _

variable {requests others : List WriteRequest}

/-- Unrelated writes end as each would alone. -/
theorem outcomes_eq_map (ordinary : ∀ request ∈ requests, request.target.path.IsOrdinary)
    (apart : requests.Pairwise WriteRequest.IsUnrelated) (disk : Disk) :
    disk.outcomes requests = requests.map fun request => (request.write disk).1 := by
  induction requests generalizing disk with
  | nil => rfl
  | cons request others recurse =>
    obtain ⟨here, later⟩ := List.forall_mem_cons.1 ordinary
    obtain ⟨first, rest⟩ := List.pairwise_cons.1 apart
    rw [outcomes, recurse later rest, List.map_cons]
    refine congrArg _ (List.map_congr_left fun other mem => ?_)
    exact WriteRequest.write_fst_write here (later other mem) (first other mem) disk

/-- Unrelated writes leave the same disk in any order. -/
theorem afterWrites_perm (same : requests.Perm others)
    (ordinary : ∀ request ∈ requests, request.target.path.IsOrdinary)
    (apart : requests.Pairwise WriteRequest.IsUnrelated) (disk : Disk) :
    disk.afterWrites requests = disk.afterWrites others := by
  rw [afterWrites_eq_foldl, afterWrites_eq_foldl]
  have symmetric : Std.Symm WriteRequest.IsUnrelated := ⟨fun _ _ => Location.IsUnrelated.symm⟩
  refine same.foldl_eq' (fun first one second other disk => ?_) disk
  by_cases equal : first = second
  · rw [equal]
  · have unrelated := apart.forall one other equal
    exact WriteRequest.write_snd_write (ordinary _ one) (ordinary _ other) unrelated disk

/-- Unrelated writes to ordinary paths commute: two of them leave the same disk in either order and
end as each would alone, and so do any number of them in any order. -/
theorem writes_commute (disk : Disk) :
    (∀ first second : WriteRequest, first.target.path.IsOrdinary →
      second.target.path.IsOrdinary → first.location.IsUnrelated second.location →
        (second.write (first.write disk).2).2 = (first.write (second.write disk).2).2 ∧
        (second.write (first.write disk).2).1 = (second.write disk).1 ∧
        (first.write (second.write disk).2).1 = (first.write disk).1) ∧
      ∀ requests others : List WriteRequest, requests.Perm others →
        (∀ request ∈ requests, request.target.path.IsOrdinary) →
        (requests.Pairwise fun first second => first.location.IsUnrelated second.location) →
          disk.afterWrites requests = disk.afterWrites others ∧
          (disk.outcomes requests = requests.map fun request => (request.write disk).1) ∧
          disk.outcomes others = others.map fun request => (request.write disk).1 := by
  refine ⟨fun first second one other apart => ⟨?_, ?_, ?_⟩,
    fun requests others same ordinary apart => ⟨?_, ?_, ?_⟩⟩
  · exact WriteRequest.write_snd_write one other apart disk
  · exact WriteRequest.write_fst_write one other apart disk
  · exact WriteRequest.write_fst_write other one apart.symm disk
  · exact afterWrites_perm same ordinary apart disk
  · exact outcomes_eq_map ordinary apart disk
  · exact outcomes_eq_map (fun request mem => ordinary request (same.mem_iff.2 mem))
      (same.pairwise apart Location.IsUnrelated.symm) disk

/-- A source, a header and a path that only a directory can have are written alike in both orders,
though either of the two files may be what makes their directory. -/
theorem writes_commute_shared :
    let source := Path.ofPieces [⟨"src", by decide⟩, ⟨"a.c", by decide⟩]
    let header := Path.ofPieces [⟨"src", by decide⟩, ⟨"a.h", by decide⟩]
    let folder := Path.ofPieces [⟨"lib", by decide⟩, ⟨"b", by decide⟩, .empty]
    let requests : List WriteRequest :=
      [.file ⟨source, "int x;\n", .stub⟩, .file ⟨header, "", {}⟩, .file ⟨folder, "", {}⟩]
    (∀ request ∈ requests, request.target.path.IsOrdinary) ∧
      Disk.empty.afterWrites requests = Disk.empty.afterWrites requests.reverse ∧
      Disk.empty.outcomes requests.reverse =
        [.error (.write folder), .ok .written, .ok .written] := by
  intro source header folder requests
  have ordinary : ∀ request ∈ requests, request.target.path.IsOrdinary := by decide
  obtain ⟨_, permuted⟩ := writes_commute Disk.empty
  obtain ⟨same, _, ends⟩ :=
    permuted requests requests.reverse (List.reverse_perm _).symm ordinary (by decide)
  exact ⟨ordinary, same, ends.trans (by decide)⟩

end Disk
end CSource
