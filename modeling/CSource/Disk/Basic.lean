import Std.Data.ExtTreeMap

/-!
# Disks

A disk is the tree of files and directories below the working directory, each known by the names
that lead to it. Whatever is on a disk stands in a directory. Something new is put into a
directory that exists, and never in the place of a directory; a look at the disk afterwards finds
it, and everything else as it was (`lookup?_place`). Disks with the same entries are equal
(`Disk.ext_lookup?`).
-/

namespace CSource

/-- The names that lead from the working directory to a place. -/
abbrev Location := List String

/-- What is at a place on a disk. -/
inductive Entry where
  /-- A file with its content. -/
  | file (content : String)
  /-- A directory. -/
  | directory
deriving DecidableEq, Repr

/-- Files and directories by their place. -/
abbrev Entries := Std.ExtTreeMap Location Entry

/-- What is at a place; the working directory itself is always there. -/
def Entries.lookup? (entries : Entries) : Location → Option Entry
  | [] => some .directory
  | location => entries[location]?

/-- The files and directories below the working directory. -/
structure Disk where
  /-- Everything but the working directory itself. -/
  entries : Entries
  /-- Whatever is on the disk stands in a directory. -/
  rooted : ∀ (location : Location) (entry : Entry), entries[location]? = some entry →
    location ≠ [] ∧ entries.lookup? location.dropLast = some .directory

namespace Disk

/-- A disk with nothing on it. -/
def empty : Disk := ⟨∅, by simp⟩

/-- What is at a place. -/
def lookup? (disk : Disk) (location : Location) : Option Entry := disk.entries.lookup? location

/-- The working directory is a directory. -/
@[simp] theorem lookup?_nil (disk : Disk) : disk.lookup? [] = some .directory := rfl

/-- What is below the working directory is looked up by its names. -/
theorem lookup?_eq (disk : Disk) {location : Location} (below : location ≠ []) :
    disk.lookup? location = disk.entries[location]? := by
  cases location with
  | nil => exact absurd rfl below
  | cons name names => rfl

/-- Whatever is at a place stands in a directory. -/
theorem lookup?_dropLast (disk : Disk) {location : Location} {entry : Entry}
    (found : disk.lookup? location = some entry) :
    disk.lookup? location.dropLast = some .directory := by
  cases location with
  | nil => rfl
  | cons name names => exact (disk.rooted _ _ found).2

/-- Disks with the same entries are equal. -/
theorem ext_lookup? {left right : Disk}
    (same : ∀ location, left.lookup? location = right.lookup? location) : left = right := by
  have entries : left.entries = right.entries := by
    apply Std.ExtTreeMap.ext_getElem?
    intro location
    cases location with
    | nil =>
      have absent : ∀ disk : Disk, disk.entries[([] : Location)]? = none := fun disk =>
        Option.eq_none_iff_forall_ne_some.2 fun entry found => (disk.rooted _ _ found).1 rfl
      rw [absent, absent]
    | cons name names => exact same (name :: names)
  obtain ⟨leftEntries, _⟩ := left
  obtain ⟨rightEntries, _⟩ := right
  simpa using entries

/-- Whether something new may be put at a place: its directory exists, and no directory is in its
place. -/
def Free (disk : Disk) (location : Location) : Prop :=
  location ≠ [] ∧ disk.lookup? location.dropLast = some .directory ∧
    disk.lookup? location ≠ some .directory

instance (disk : Disk) (location : Location) : Decidable (disk.Free location) :=
  inferInstanceAs (Decidable (_ ∧ _ ∧ _))

/-- The disk with something new at a place. -/
def place (disk : Disk) (location : Location) (entry : Entry) (free : disk.Free location) :
    Disk where
  entries := disk.entries.insert location entry
  rooted other found present := by
    have kept : ∀ {place : Location}, disk.lookup? place = some .directory →
        Entries.lookup? (disk.entries.insert location entry) place = some .directory := by
      intro place directory
      cases place with
      | nil => rfl
      | cons name names =>
        have apart : location ≠ name :: names := fun same => free.2.2 (same ▸ directory)
        change (disk.entries.insert location entry)[name :: names]? = _
        rw [Std.ExtTreeMap.getElem?_insert, if_neg (by simpa using apart)]
        exact directory
    rw [Std.ExtTreeMap.getElem?_insert] at present
    split at present
    · rename_i same
      obtain rfl : location = other := by simpa using same
      exact ⟨free.1, kept free.2.1⟩
    · exact ⟨(disk.rooted other found present).1, kept (disk.rooted other found present).2⟩

/-- What is put at a place is found there, and everything else as it was. -/
theorem lookup?_place (disk : Disk) {location : Location} (entry : Entry)
    (free : disk.Free location) (other : Location) :
    (disk.place location entry free).lookup? other
      = if location = other then some entry else disk.lookup? other := by
  cases other with
  | nil => simp [free.1]
  | cons name names =>
    rw [lookup?_eq _ (by simp), lookup?_eq _ (by simp)]
    simp [place, Std.ExtTreeMap.getElem?_insert]

/-- All files and directories with their places, in the order of the names. -/
def toList (disk : Disk) : List (Location × Entry) := disk.entries.toList

end Disk
end CSource
