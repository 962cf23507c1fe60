import CSource.Comments
import CSource.Expr.Basic

/-!
# Types and declarations

A type is built from a base name by pointers, arrays, function pointers and words written before
or after it, or it is the body of a struct, which holds declarations of its own. The three are
one family, decided equal part by part (`CType.same_iff`).
-/

namespace CSource

/-- Words that combine with a type. -/
inductive Qualifier where
  | unsigned | signed | const | static | register | volatile | restrict | short | long | inline
  | struct | union | enum
deriving DecidableEq, Repr

/-- The spelling of a word. -/
def Qualifier.word : Qualifier → String
  | unsigned => "unsigned"
  | signed => "signed"
  | const => "const"
  | static => "static"
  | register => "register"
  | volatile => "volatile"
  | restrict => "restrict"
  | short => "short"
  | long => "long"
  | inline => "inline"
  | struct => "struct"
  | union => "union"
  | enum => "enum"

mutual

/-- A type. -/
inductive CType where
  /-- A type known by its spelling. -/
  | named (name : String)
  /-- A pointer to a type. -/
  | pointer (target : CType)
  /-- An array of elements, with or without a size. -/
  | array (element : CType) (size : Option Nat)
  /-- A type after a word. -/
  | leading (word : Qualifier) (inner : CType)
  /-- A type before a word. -/
  | trailing (inner : CType) (word : Qualifier)
  /-- A type of something defined elsewhere, with or without a linkage. -/
  | external (linkage : Option String) (inner : CType)
  /-- A pointer to a function. -/
  | functionPointer (result : CType) (parameters : List CType)
  /-- The body of a struct. -/
  | struct (body : StructBody)

/-- The body of a struct. -/
structure StructBody where
  /-- The name after the keyword, if there is one. -/
  tag : Option String := none
  /-- The members in order. -/
  fields : List Declaration := []

/-- The declaration of a variable or of a member of a struct. -/
structure Declaration where
  /-- The lines written before it. -/
  comments : Comments := .empty
  /-- The type of what is declared. -/
  type : CType
  /-- The name of what is declared. -/
  name : String
  /-- The initial value, if there is one. -/
  initial : Option Expr := none

end

mutual

/-- Whether two types are built alike. -/
def CType.same : CType → CType → Bool
  | .named left, .named right => left = right
  | .pointer left, .pointer right => left.same right
  | .array left size, .array right other => left.same right && size = other
  | .leading word left, .leading other right => word = other && left.same right
  | .trailing left word, .trailing right other => left.same right && word = other
  | .external linkage left, .external other right => linkage = other && left.same right
  | .functionPointer left lefts, .functionPointer right rights =>
    left.same right && CType.sameList lefts rights
  | .struct left, .struct right => left.same right
  | _, _ => false

/-- Whether two lists of types are built alike. -/
def CType.sameList : List CType → List CType → Bool
  | [], [] => true
  | left :: lefts, right :: rights => left.same right && CType.sameList lefts rights
  | _, _ => false

/-- Whether two struct bodies are built alike. -/
def StructBody.same : StructBody → StructBody → Bool
  | ⟨tag, fields⟩, ⟨other, others⟩ => tag = other && Declaration.sameList fields others

/-- Whether two declarations are built alike. -/
def Declaration.same : Declaration → Declaration → Bool
  | ⟨comments, type, name, initial⟩, ⟨otherComments, otherType, otherName, otherInitial⟩ =>
    comments = otherComments && type.same otherType && name = otherName &&
      initial = otherInitial

/-- Whether two lists of declarations are built alike. -/
def Declaration.sameList : List Declaration → List Declaration → Bool
  | [], [] => true
  | left :: lefts, right :: rights => left.same right && Declaration.sameList lefts rights
  | _, _ => false

end

mutual

/-- Types built alike are equal, and no others. -/
theorem CType.same_iff : ∀ left right : CType, left.same right = true ↔ left = right
  | .named _, right => by cases right <;> simp [CType.same]
  | .pointer left, right => by cases right <;> simp [CType.same, left.same_iff]
  | .array left _, right => by cases right <;> simp [CType.same, left.same_iff]
  | .leading _ left, right => by cases right <;> simp [CType.same, left.same_iff]
  | .trailing left _, right => by cases right <;> simp [CType.same, left.same_iff]
  | .external _ left, right => by cases right <;> simp [CType.same, left.same_iff]
  | .functionPointer left lefts, right => by
    cases right <;> simp [CType.same, left.same_iff, CType.sameList_iff lefts]
  | .struct left, right => by cases right <;> simp [CType.same, left.same_iff]

/-- Lists of types built alike are equal, and no others. -/
theorem CType.sameList_iff :
    ∀ lefts rights : List CType, CType.sameList lefts rights = true ↔ lefts = rights
  | [], rights => by cases rights <;> simp [CType.sameList]
  | left :: lefts, rights => by
    cases rights <;> simp [CType.sameList, left.same_iff, CType.sameList_iff lefts]

/-- Struct bodies built alike are equal, and no others. -/
theorem StructBody.same_iff : ∀ left right : StructBody, left.same right = true ↔ left = right
  | ⟨_, fields⟩, right => by
    cases right; simp [StructBody.same, Declaration.sameList_iff fields]

/-- Declarations built alike are equal, and no others. -/
theorem Declaration.same_iff : ∀ left right : Declaration, left.same right = true ↔ left = right
  | ⟨_, type, _, _⟩, right => by
    cases right; simp [Declaration.same, type.same_iff, and_assoc]

/-- Lists of declarations built alike are equal, and no others. -/
theorem Declaration.sameList_iff :
    ∀ lefts rights : List Declaration,
      Declaration.sameList lefts rights = true ↔ lefts = rights
  | [], rights => by cases rights <;> simp [Declaration.sameList]
  | left :: lefts, rights => by
    cases rights <;> simp [Declaration.sameList, left.same_iff, Declaration.sameList_iff lefts]

end

instance : DecidableEq CType := fun left right => decidable_of_iff _ (left.same_iff right)
instance : DecidableEq StructBody := fun left right => decidable_of_iff _ (left.same_iff right)
instance : DecidableEq Declaration := fun left right => decidable_of_iff _ (left.same_iff right)

end CSource
