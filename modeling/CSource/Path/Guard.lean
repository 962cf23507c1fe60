import CSource.Path.Basic

/-!
# Guard names

A header is protected by a macro named after its file: letters in upper case, digits as they
are, and an underscore for everything else, one for each character. Only the letters and digits
of ASCII count.
-/

namespace CSource.Path

/-- One character of a guard name. -/
def guardChar (char : Char) : Char :=
  if char.isAlphanum then char.toUpper else '_'

/-- The text that a guard is named after: the file name, or the whole path without one. -/
def guarded (path : Path) : String :=
  match path.fileName? with
  | some piece => piece.text
  | none => path.text

/-- The name of the macro that guards a header. -/
def guardName (path : Path) : String :=
  String.ofList (path.guarded.toList.map guardChar)

end CSource.Path
