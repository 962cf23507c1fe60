import CSource.File.Basic
import CSource.Item.SourceUnit

/-!
# Generated files

What is rendered to a file knows its path below a directory, its text and its rules, and is
written as a file of these. A source file is a source unit in an indentation style.
-/

namespace CSource

/-- Things that are rendered to a file. -/
class Generated (α : Type) where
  /-- The path of the file, seen from a directory. -/
  path : α → Path → Path
  /-- The text of the file. -/
  content : α → String
  /-- How the file is written. -/
  rules : α → Rules := fun _ => {}

namespace Generated

variable {α : Type} [Generated α]

/-- The file that a thing is rendered to below a directory. -/
def file (source : α) (base : Path) : File := ⟨path source base, content source, rules source⟩

/-- How the write of a thing below a directory ends, and the disk after it. -/
def write (source : α) (base : Path) (disk : Disk) : Except WriteError WriteOutcome × Disk :=
  (file source base).write disk

end Generated

/-- A text at a path below a directory. -/
structure TextFile where
  /-- The path below the directory. -/
  path : Path
  /-- The text. -/
  content : String
deriving DecidableEq

instance : Generated TextFile where
  path source base := base.join source.path
  content := TextFile.content

/-- A source unit at a path below a directory. -/
structure SourceFile where
  /-- The path below the directory. -/
  path : Path
  /-- The content of the file. -/
  unit : SourceUnit
  /-- The indentation style. -/
  style : Indent := default
  /-- How the file is written. -/
  rules : Rules := {}
deriving DecidableEq

instance : Generated SourceFile where
  path source base := base.join source.path
  content source := renderWith source.style source.unit
  rules := SourceFile.rules

end CSource
