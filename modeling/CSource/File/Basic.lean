import CSource.Disk.Reach

/-!
# Writing files

A file is written to its path, after the directories above it are made. Its rules say whether a
file that exists already is left alone, and which line is put before the content. A write ends in
one of two ways or fails in one of two; a failure names the path at fault.
-/

namespace CSource

/-- What becomes of a file that exists already. -/
inductive Overwrite where
  /-- It is written anew. -/
  | always
  /-- It is left alone. -/
  | ifMissing
deriving DecidableEq, Repr

/-- How a file is written. -/
structure Rules where
  /-- What becomes of a file that exists already. -/
  overwrite : Overwrite := .always
  /-- A line before the content, if there is one. -/
  header : Option String := none
deriving DecidableEq, Repr

/-- The rules for a file that is edited by hand once it exists. -/
def Rules.stub : Rules := { overwrite := .ifMissing }

/-- How a write ends. -/
inductive WriteOutcome where
  /-- The file was written. -/
  | written
  /-- The file was left alone. -/
  | skipped
deriving DecidableEq, Repr

/-- Why a write fails. -/
inductive WriteError where
  /-- The directory right above the file could not be made. -/
  | create (directory : Path)
  /-- The file could not be written. -/
  | write (path : Path)
deriving DecidableEq

/-- What is said of a write that failed. -/
def WriteError.message : WriteError → String
  | create directory => "failed to create '" ++ directory.text ++ "'"
  | write path => "failed to write '" ++ path.text ++ "'"

/-- A text to be written to a path. -/
structure File where
  /-- Where the file is written. -/
  path : Path
  /-- The text, without the header. -/
  content : String
  /-- How the file is written. -/
  rules : Rules := {}
deriving DecidableEq

namespace File

/-- The text that is written: the header on a line of its own, and the content. -/
def written (file : File) : String :=
  match file.rules.header with
  | some header => header ++ "\n" ++ file.content
  | none => file.content

/-- How the write of a file into a directory that exists ends, and the disk after it. -/
def put (file : File) (disk : Disk) : Except WriteError WriteOutcome × Disk :=
  match disk.writeFile? file.path file.written with
  | some done => (.ok .written, done)
  | none => (.error (.write file.path), disk)

/-- How the write of a file ends, and the disk after it. -/
def write (file : File) (disk : Disk) : Except WriteError WriteOutcome × Disk :=
  if file.rules.overwrite = .ifMissing ∧ disk.contains file.path then (.ok .skipped, disk)
  else
    match file.path.parents with
    | [] => file.put disk
    | parent :: above =>
      match disk.makeDirectories (parent :: above) with
      | (true, ready) => file.put ready
      | (false, left) => (.error (.create parent), left)

end File
end CSource
