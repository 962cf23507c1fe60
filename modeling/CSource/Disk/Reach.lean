import CSource.Disk.Basic
import CSource.Path.Basic

/-!
# Reaching places by paths

A path is followed piece by piece from the working directory. Every piece asks for a directory
where it starts, also one that leads nowhere, so that a path ending in a separator reaches
directories only. The working directory is the top: going up from it stays there, and a path from
the root starts there. The empty path reaches nothing, and neither does a path that holds the
character with code zero or is longer than `Path.limit`. A directory takes no name longer than
`Piece.limit`; such a name stops a path only once the directory that would hold it is reached.
-/

namespace CSource

/-- Why a directory cannot be made. -/
inductive Obstacle where
  /-- A directory on the way does not exist. -/
  | missing
  /-- A file stands where a directory is needed on the way, or a name or the path is not one that
  can be asked for. -/
  | blocked
  /-- Something is there already. -/
  | taken
deriving DecidableEq, Repr

/-- The length of the longest name that a directory takes, in bytes. -/
def Piece.limit : Nat := 255

/-- Whether a directory takes a name. -/
def Piece.fits (piece : Piece) : Bool := piece.text.utf8ByteSize ≤ limit

/-- The length of the longest path that can be asked for, in bytes. -/
def Path.limit : Nat := 4095

/-- Whether a path can be asked for at all. -/
def Path.isAddress (path : Path) : Bool :=
  path.text ≠ "" && !path.text.toList.contains '\x00' && path.text.utf8ByteSize ≤ limit

namespace Disk

/-- The place that some pieces lead to. -/
def follow (disk : Disk) : Location → List Piece → Except Obstacle Location
  | location, [] => .ok location
  | location, piece :: pieces =>
    match disk.lookup? location with
    | none => .error .missing
    | some (.file _) => .error .blocked
    | some .directory =>
      if piece.isIdle then disk.follow location pieces
      else if piece = .up then disk.follow location.dropLast pieces
      else if piece.fits then disk.follow (location ++ [piece.text]) pieces
      else .error .blocked

/-- What a path reaches. -/
def reach? (disk : Disk) (path : Path) : Option Entry :=
  if path.isAddress then
    match disk.follow [] path.pieces with
    | .ok location => disk.lookup? location
    | .error _ => none
  else none

/-- Whether a path reaches anything. -/
def contains (disk : Disk) (path : Path) : Bool := (disk.reach? path).isSome

/-- The disk with a directory at a path. Separators at the end of the path do not count. -/
def makeDirectory (disk : Disk) (path : Path) : Except Obstacle Disk :=
  if path.text = "" then .error .missing
  else if path.isAddress then
    match disk.follow [] (path.pieces.reverse.dropWhile (· = .empty)).reverse with
    | .error obstacle => .error obstacle
    | .ok location =>
      if (disk.lookup? location).isSome then .error .taken
      else if free : disk.Free location then .ok (disk.place location .directory free)
      else .error .missing
  else .error .blocked

/-- The disk with a directory at the first of some paths, each the one above the path before it,
and whether that worked. Directories above are made when one is missing. -/
def makeDirectories (disk : Disk) : List Path → Bool × Disk
  | [] => (true, disk)
  | path :: above =>
    if path.text = "" then (true, disk)
    else
      match disk.makeDirectory path with
      | .ok made => (true, made)
      | .error .missing =>
        match disk.makeDirectories above with
        | (false, left) => (false, left)
        | (true, ready) =>
          match ready.makeDirectory path with
          | .ok made => (true, made)
          | .error _ => (ready.reach? path = some .directory, ready)
      | .error _ => (disk.reach? path = some .directory, disk)

/-- The disk with a file at a path, if the path ends in a name and its directory exists. -/
def writeFile? (disk : Disk) (path : Path) (content : String) : Option Disk :=
  if path.isAddress && path.pieces.getLast? ≠ some .empty then
    match disk.follow [] path.pieces with
    | .error _ => none
    | .ok location =>
      if free : disk.Free location then some (disk.place location (.file content) free) else none
  else none

end Disk
end CSource
