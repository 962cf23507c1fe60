import CSource.CType.Basic
import CSource.Text.Quoted

/-!
# Spelling of types

A declaration in C reads like a use of the name: what is nearest to the name binds it first. The
text is therefore built from the name outwards. At each type the text built so far, the
declarator, is wrapped in what that type adds to it; an empty declarator gives the spelling of
the type on its own.
-/

namespace CSource

/-- Where the star of a pointer stands. -/
inductive StarPlace where
  /-- With the name, in parentheses. -/
  | parenthesized
  /-- With the name, inside parentheses that the target writes. -/
  | name
  /-- With the type that it points at. -/
  | target
deriving DecidableEq, Repr

namespace CType

/-- A base and the declarator after it. A space stands between them unless nothing follows, or
the size of an array does. -/
def attach (base declarator : String) : String :=
  match declarator.toList with
  | [] => base
  | '[' :: _ => base ++ declarator
  | _ => base ++ " " ++ declarator

/-- The size of an array in brackets. -/
def brackets : Option Nat → String
  | some size => "[" ++ toString size ++ "]"
  | none => "[]"

/-- A word before a declarator. -/
def wordBefore (word : Qualifier) (declarator : String) : String :=
  if declarator = "" then word.word else word.word ++ " " ++ declarator

/-- The words before a type of something defined elsewhere. -/
def linkageWords : Option String → String
  | some linkage => "extern " ++ Text.quoted linkage ++ " "
  | none => "extern "

/-- Texts of parameters between commas; without parameters the list is spelled out as empty. -/
def parameterList : List String → String
  | [] => "void"
  | parameters => ", ".intercalate parameters

/-- Whether a pointer to a type has its star with the name. Words after a type are looked
through, words before it are not. -/
def bindsTighter : CType → Bool
  | array .. | functionPointer .. => true
  | pointer inner | trailing inner _ => inner.bindsTighter
  | named _ | leading .. | external .. | struct _ => false

/-- Where the star of a pointer to a type stands. Only pointers are looked through. -/
def starPlace : CType → StarPlace
  | array .. => .parenthesized
  | functionPointer .. => .name
  | pointer inner => if inner.bindsTighter then .name else .target
  | named _ | leading .. | trailing .. | external .. | struct _ => .target

end CType

/-- The keyword of a struct and its tag. -/
def StructBody.keyword : Option String → String
  | some tag => "struct " ++ tag
  | none => "struct"

/-- A struct on one line, from the texts of its members. -/
def StructBody.line (tag : Option String) (members : List String) : String :=
  match members with
  | [] => keyword tag ++ " \x7b\x7d"
  | members => keyword tag ++ " \x7b " ++ " ".intercalate (members.map (· ++ ";")) ++ " \x7d"

/-- A declaration with its initial value. -/
def Declaration.initialized (declared : String) : Option Expr → String
  | some initial => declared ++ " = " ++ initial.code
  | none => declared

mutual

/-- A type around a declarator. -/
def CType.declarator : CType → String → String
  | .named name, inner => CType.attach name inner
  | .struct body, inner => CType.attach body.spelling inner
  | .pointer target, inner =>
    match target.starPlace with
    | .parenthesized => target.declarator ("(*" ++ inner ++ ")")
    | .name => target.declarator ("*" ++ inner)
    | .target => CType.attach (target.declarator "" ++ "*") inner
  | .array element size, inner => element.declarator (inner ++ CType.brackets size)
  | .leading word type, inner => word.word ++ " " ++ type.declarator inner
  | .trailing type word, inner =>
    if type.bindsTighter then type.declarator (CType.wordBefore word inner)
    else CType.attach (type.declarator "" ++ " " ++ word.word) inner
  | .external linkage type, inner => CType.linkageWords linkage ++ type.declarator inner
  | .functionPointer result parameters, inner =>
    result.declarator
      ("(*" ++ inner ++ ")(" ++ CType.parameterList (CType.spellings parameters) ++ ")")

/-- The spellings of types in order. -/
def CType.spellings : List CType → List String
  | [] => []
  | type :: types => type.declarator "" :: CType.spellings types

/-- A struct body on one line. -/
def StructBody.spelling : StructBody → String
  | ⟨tag, fields⟩ => StructBody.line tag (Declaration.texts fields)

/-- A declaration without its end. -/
def Declaration.text : Declaration → String
  | ⟨_, type, name, initial⟩ => Declaration.initialized (type.declarator name) initial

/-- The texts of declarations in order. -/
def Declaration.texts : List Declaration → List String
  | [] => []
  | declaration :: declarations => declaration.text :: Declaration.texts declarations

end

/-- The spellings of types are taken one by one. -/
theorem CType.spellings_eq_map (types : List CType) :
    CType.spellings types = types.map fun type => type.declarator "" := by
  induction types with
  | nil => rfl
  | cons type types ih => simp [CType.spellings, ih]

/-- The texts of declarations are taken one by one. -/
theorem Declaration.texts_eq_map (declarations : List Declaration) :
    Declaration.texts declarations = declarations.map Declaration.text := by
  induction declarations with
  | nil => rfl
  | cons declaration declarations ih => simp [Declaration.texts, ih]

/-- A type on its own. -/
def CType.spelling (type : CType) : String := type.declarator ""

/-- A declaration of a name with a type. -/
def CType.declare (type : CType) (name : String) : String := type.declarator name

/-- The size of a type. -/
def CType.sizeof (type : CType) : Expr := ⟨"sizeof(" ++ type.spelling ++ ")"⟩

/-- The struct body that a type is, if it is one. -/
def CType.body? : CType → Option StructBody
  | .struct body => some body
  | _ => none

/-- An expression converted to a type. -/
def Expr.cast (type : CType) (operand : Expr) : Expr :=
  ⟨"(" ++ type.spelling ++ ") " ++ operand.code⟩

/-- A type on its own is a statement. -/
instance : Render CType where
  instructions type := [.line (type.spelling ++ ";")]

/-- A declaration is a statement after its comments. -/
instance : Render Declaration where
  instructions declaration :=
    instructions declaration.comments ++ [.line (declaration.text ++ ";")]

end CSource
