import CSource.CType.Spelling

/-!
# Function prototypes

A prototype names a function and says what it takes and returns. The type of a pointer to such a
function lists the same parameters without their names.
-/

namespace CSource

/-- A parameter of a function. -/
inductive Parameter where
  /-- A parameter with a type and a name. -/
  | named (type : CType) (name : String)
  /-- The mark of further parameters of any number. -/
  | variadic
deriving DecidableEq

namespace Parameter

/-- A parameter that points to a function. -/
def functionPointer (result : CType) (name : String) (parameters : List CType) : Parameter :=
  .named (.functionPointer result parameters) name

/-- What stands for a parameter in the type of a function. -/
def type : Parameter → CType
  | named type _ => type
  | variadic => .named "..."

/-- What stands for a parameter in a prototype. -/
def text : Parameter → String
  | named type name => type.declare name
  | variadic => "..."

end Parameter

/-- What a function is called, takes and returns. -/
structure Prototype where
  /-- The lines written before it. -/
  comments : Comments := .empty
  /-- The type of its result. -/
  result : CType
  /-- The name of the function. -/
  name : String
  /-- The parameters in order. -/
  parameters : List Parameter := []
deriving DecidableEq

namespace Prototype

instance : Commented Prototype where
  comments := Prototype.comments
  withComments prototype comments := { prototype with comments }

/-- A prototype with more parameters at its end. -/
def addParameters (prototype : Prototype) (parameters : List Parameter) : Prototype :=
  { prototype with parameters := prototype.parameters ++ parameters }

/-- A prototype without its end. -/
def text (prototype : Prototype) : String :=
  prototype.result.spelling ++ " " ++ prototype.name ++
    "(" ++ CType.parameterList (prototype.parameters.map Parameter.text) ++ ")"

/-- The type of a pointer to a function with a prototype. -/
def pointerType (prototype : Prototype) : CType :=
  .functionPointer prototype.result (prototype.parameters.map Parameter.type)

/-- A parameter that points to a function with a prototype. -/
def pointerParameter (prototype : Prototype) (name : String) : Parameter :=
  .named prototype.pointerType name

instance : Render Prototype where
  instructions prototype := instructions prototype.comments ++ [.line (prototype.text ++ ";")]

end Prototype
end CSource
