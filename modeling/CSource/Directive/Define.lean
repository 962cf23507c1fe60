import CSource.Layout.Instruction

/-!
# Macro definitions

A macro is defined by its name, with or without a value.
-/

namespace CSource

/-- The definition of a macro. -/
structure Define where
  /-- The name of the macro. -/
  name : String
  /-- What the macro stands for, if anything. -/
  value : Option String := none
deriving DecidableEq

namespace Define

/-- A definition with a value, in place of one it has. -/
def withValue (definition : Define) (value : String) : Define :=
  { definition with value := some value }

/-- The line of a definition. -/
def text : Define → String
  | ⟨name, some value⟩ => "#define " ++ name ++ " " ++ value
  | ⟨name, none⟩ => "#define " ++ name

instance : Render Define where
  instructions definition := [.line definition.text]

end Define
end CSource
