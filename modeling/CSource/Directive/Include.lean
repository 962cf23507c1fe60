import CSource.Comments
import CSource.Text.Quoted

/-!
# Inclusions

A header is included by a path between angle brackets, where the system looks for it, or between
quotes. The delimiters are part of what an inclusion holds.
-/

namespace CSource

/-- The inclusion of a header. -/
structure Include where
  /-- The lines written before it. -/
  comments : Comments := .empty
  /-- The path of the header between its delimiters. -/
  target : String
deriving DecidableEq

namespace Include

instance : Commented Include where
  comments := Include.comments
  withComments inclusion comments := { inclusion with comments }

/-- The inclusion of a header of the system. -/
def system (path : String) : Include := { target := "<" ++ path ++ ">" }

/-- The inclusion of a header of the program itself. -/
def own (path : String) : Include := { target := Text.quoted path }

instance : Render Include where
  instructions inclusion :=
    instructions inclusion.comments ++ [.line ("#include " ++ inclusion.target)]

end Include
end CSource
