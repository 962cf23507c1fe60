import CSource.Comments

/-!
# Enumerations

Every name of an enumeration is given its position as its value. A comma stands after each but
the last.
-/

namespace CSource

/-- Names that stand for whole numbers. -/
structure Enumeration where
  /-- The lines written before it. -/
  comments : Comments := .empty
  /-- The name of the enumeration. -/
  name : String
  /-- The names of its values in order. -/
  values : List String := []
deriving DecidableEq

namespace Enumeration

instance : Commented Enumeration where
  comments := Enumeration.comments
  withComments enumeration comments := { enumeration with comments }

/-- An enumeration with more values at its end. -/
def addValues (enumeration : Enumeration) (values : List String) : Enumeration :=
  { enumeration with values := enumeration.values ++ values }

/-- A name with its position and what separates it from those after it. -/
def entry (position : Nat) (name : String) (others : List String) : String :=
  name ++ " = " ++ toString position ++ if others.isEmpty then "" else ","

/-- The entries of names from a position on. -/
def entries (position : Nat) : List String → List String
  | [] => []
  | name :: others => entry position name others :: entries (position + 1) others

instance : Render Enumeration where
  instructions enumeration :=
    instructions enumeration.comments ++
      .line ("enum " ++ enumeration.name ++ " \x7b") ::
        Instruction.nested ((entries 0 enumeration.values).map .line) ++ [.line "\x7d;"]

end Enumeration
end CSource
