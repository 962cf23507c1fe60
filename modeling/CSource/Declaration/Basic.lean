import CSource.CType.Spelling

/-!
# Building declarations

Declarations get comments and an initial value, and struct bodies get members; everything else
about them stays as it is.
-/

namespace CSource

instance : Commented Declaration where
  comments := Declaration.comments
  withComments declaration comments := { declaration with comments }

/-- A declaration with an initial value, in place of one it has. -/
def Declaration.initialize (declaration : Declaration) (value : Expr) : Declaration :=
  { declaration with initial := some value }

/-- A struct body with more members at its end. -/
def StructBody.addFields (body : StructBody) (fields : List Declaration) : StructBody :=
  { body with fields := body.fields ++ fields }

end CSource
