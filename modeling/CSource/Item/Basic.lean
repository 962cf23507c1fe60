import CSource.CType.Spelling
import CSource.Declaration.Enumeration
import CSource.Declaration.Prototype
import CSource.Declaration.Typedef
import CSource.Directive.Define
import CSource.Directive.Include

/-!
# Items

An item is anything that stands at the top of a file or in a body: declarations, directives and
statements. Functions, blocks, the arms of a switch and guarded parts have a body of further
items. Items are decided equal part by part (`Item.same_iff`); a block is known by the texts of
its head and tail.
-/

namespace CSource

mutual

/-- A part of a C file. -/
inductive Item where
  /-- An empty line. -/
  | blank
  /-- Code as it is, a line at a time. -/
  | raw (code : String)
  /-- Comments on their own. -/
  | comment (comments : Comments)
  /-- An expression as a statement. -/
  | evaluate (expr : Expr)
  /-- The end of a function, with or without a result. -/
  | returns (value : Option Expr)
  /-- The throw of an exception. -/
  | throws (value : Expr)
  /-- The end of a loop or switch. -/
  | breaks
  /-- The end of one round of a loop. -/
  | continues
  /-- A type on its own. -/
  | type (type : CType)
  /-- The declaration of a variable. -/
  | declaration (declaration : Declaration)
  /-- A name for a type. -/
  | typedef (typedef : Typedef)
  /-- The prototype of a function. -/
  | prototype (prototype : Prototype)
  /-- The definition of a function. -/
  | function (function : Function)
  /-- A braced body after a head. -/
  | block (block : Block)
  /-- One arm of a switch. -/
  | arm (arm : SwitchArm)
  /-- An enumeration. -/
  | enumeration (enumeration : Enumeration)
  /-- The inclusion of a header. -/
  | inclusion (inclusion : Include)
  /-- The definition of a macro. -/
  | define (definition : Define)
  /-- A part that is compiled once. -/
  | guard (guard : Guard)

/-- The definition of a function. -/
structure Function where
  /-- The lines written before it, ahead of those of its prototype. -/
  comments : Comments := .empty
  /-- What the function is called, takes and returns. -/
  prototype : Prototype
  /-- The statements of the function. -/
  body : List Item := []

/-- A braced body, with what stands before and after the braces. -/
structure Block where
  /-- The lines written before it. -/
  comments : Comments := .empty
  /-- What stands before the body; nothing, for a block that only opens a scope. -/
  head : String
  /-- The statements of the block. -/
  body : List Item := []
  /-- What stands after the body, if anything does. -/
  tail : Option String := none

/-- One arm of a switch. -/
structure SwitchArm where
  /-- The value that selects the arm; none, for the arm of all other values. -/
  label : Option Expr
  /-- The statements of the arm. -/
  body : List Item := []

/-- A part that is compiled only when a macro is not yet defined, and defines it. -/
structure Guard where
  /-- The name of the macro. -/
  name : String
  /-- The guarded items. -/
  body : List Item := []

end

mutual

/-- Whether two items are built alike. -/
def Item.same : Item → Item → Bool
  | .blank, .blank => true
  | .raw left, .raw right => left = right
  | .comment left, .comment right => left = right
  | .evaluate left, .evaluate right => left = right
  | .returns left, .returns right => left = right
  | .throws left, .throws right => left = right
  | .breaks, .breaks => true
  | .continues, .continues => true
  | .type left, .type right => left = right
  | .declaration left, .declaration right => left = right
  | .typedef left, .typedef right => left = right
  | .prototype left, .prototype right => left = right
  | .function left, .function right => left.same right
  | .block left, .block right => left.same right
  | .arm left, .arm right => left.same right
  | .enumeration left, .enumeration right => left = right
  | .inclusion left, .inclusion right => left = right
  | .define left, .define right => left = right
  | .guard left, .guard right => left.same right
  | _, _ => false

/-- Whether two functions are built alike. -/
def Function.same : Function → Function → Bool
  | ⟨comments, prototype, body⟩, ⟨otherComments, otherPrototype, otherBody⟩ =>
    comments = otherComments && prototype = otherPrototype && Item.sameList body otherBody

/-- Whether two blocks are built alike. -/
def Block.same : Block → Block → Bool
  | ⟨comments, head, body, tail⟩, ⟨otherComments, otherHead, otherBody, otherTail⟩ =>
    comments = otherComments && head = otherHead && Item.sameList body otherBody &&
      tail = otherTail

/-- Whether two arms are built alike. -/
def SwitchArm.same : SwitchArm → SwitchArm → Bool
  | ⟨label, body⟩, ⟨otherLabel, otherBody⟩ =>
    label = otherLabel && Item.sameList body otherBody

/-- Whether two guarded parts are built alike. -/
def Guard.same : Guard → Guard → Bool
  | ⟨name, body⟩, ⟨otherName, otherBody⟩ => name = otherName && Item.sameList body otherBody

/-- Whether two lists of items are built alike. -/
def Item.sameList : List Item → List Item → Bool
  | [], [] => true
  | left :: lefts, right :: rights => left.same right && Item.sameList lefts rights
  | _, _ => false

end

mutual

/-- Items built alike are equal, and no others. -/
theorem Item.same_iff : ∀ left right : Item, left.same right = true ↔ left = right
  | .blank, right => by cases right <;> simp [Item.same]
  | .raw _, right => by cases right <;> simp [Item.same]
  | .comment _, right => by cases right <;> simp [Item.same]
  | .evaluate _, right => by cases right <;> simp [Item.same]
  | .returns _, right => by cases right <;> simp [Item.same]
  | .throws _, right => by cases right <;> simp [Item.same]
  | .breaks, right => by cases right <;> simp [Item.same]
  | .continues, right => by cases right <;> simp [Item.same]
  | .type _, right => by cases right <;> simp [Item.same]
  | .declaration _, right => by cases right <;> simp [Item.same]
  | .typedef _, right => by cases right <;> simp [Item.same]
  | .prototype _, right => by cases right <;> simp [Item.same]
  | .function left, right => by cases right <;> simp [Item.same, left.same_iff]
  | .block left, right => by cases right <;> simp [Item.same, left.same_iff]
  | .arm left, right => by cases right <;> simp [Item.same, left.same_iff]
  | .enumeration _, right => by cases right <;> simp [Item.same]
  | .inclusion _, right => by cases right <;> simp [Item.same]
  | .define _, right => by cases right <;> simp [Item.same]
  | .guard left, right => by cases right <;> simp [Item.same, left.same_iff]

/-- Functions built alike are equal, and no others. -/
theorem Function.same_iff : ∀ left right : Function, left.same right = true ↔ left = right
  | ⟨_, _, body⟩, right => by
    cases right; simp [Function.same, Item.sameList_iff body, and_assoc]

/-- Blocks built alike are equal, and no others. -/
theorem Block.same_iff : ∀ left right : Block, left.same right = true ↔ left = right
  | ⟨_, _, body, _⟩, right => by
    cases right; simp [Block.same, Item.sameList_iff body, and_assoc]

/-- Arms built alike are equal, and no others. -/
theorem SwitchArm.same_iff : ∀ left right : SwitchArm, left.same right = true ↔ left = right
  | ⟨_, body⟩, right => by
    cases right; simp [SwitchArm.same, Item.sameList_iff body]

/-- Guarded parts built alike are equal, and no others. -/
theorem Guard.same_iff : ∀ left right : Guard, left.same right = true ↔ left = right
  | ⟨_, body⟩, right => by
    cases right; simp [Guard.same, Item.sameList_iff body]

/-- Lists of items built alike are equal, and no others. -/
theorem Item.sameList_iff :
    ∀ lefts rights : List Item, Item.sameList lefts rights = true ↔ lefts = rights
  | [], rights => by cases rights <;> simp [Item.sameList]
  | left :: lefts, rights => by
    cases rights <;> simp [Item.sameList, left.same_iff, Item.sameList_iff lefts]

end

instance : DecidableEq Item := fun left right => decidable_of_iff _ (left.same_iff right)
instance : DecidableEq Function := fun left right => decidable_of_iff _ (left.same_iff right)
instance : DecidableEq Block := fun left right => decidable_of_iff _ (left.same_iff right)
instance : DecidableEq SwitchArm := fun left right => decidable_of_iff _ (left.same_iff right)
instance : DecidableEq Guard := fun left right => decidable_of_iff _ (left.same_iff right)

end CSource
