import CSource.CType.Spelling

/-!
# Type names

A typedef gives a type a name. The body of a struct is written with a member on each line;
any other type as a declaration of the name.
-/

namespace CSource

/-- A name for a type. -/
structure Typedef where
  /-- The lines written before it. -/
  comments : Comments := .empty
  /-- The type that gets a name. -/
  type : CType
  /-- The name. -/
  name : String
deriving DecidableEq

namespace Typedef

instance : Commented Typedef where
  comments := Typedef.comments
  withComments typedef comments := { typedef with comments }

/-- The type that is known by the name. -/
def introduced (typedef : Typedef) : CType := .named typedef.name

/-- The definition itself, without its comments. -/
def definition (typedef : Typedef) : List Instruction :=
  match typedef.type with
  | .struct body =>
    .line ("typedef " ++ StructBody.keyword body.tag ++ " \x7b") ::
      Instruction.nested (instructions body.fields) ++ [.line ("\x7d " ++ typedef.name ++ ";")]
  | type => [.line ("typedef " ++ type.declare typedef.name ++ ";")]

instance : Render Typedef where
  instructions typedef := instructions typedef.comments ++ typedef.definition

end Typedef
end CSource
