import CSource.Item.Layout

/-!
# Source units

A whole C file: its comments and then its items, with nothing put between them.
-/

namespace CSource

/-- The content of a C file. -/
structure SourceUnit where
  /-- The lines written first. -/
  comments : Comments := .empty
  /-- The items in order. -/
  items : List Item := []
deriving DecidableEq

namespace SourceUnit

instance : Commented SourceUnit where
  comments := SourceUnit.comments
  withComments unit comments := { unit with comments }

/-- Whether a unit has neither comments nor items. -/
def isEmpty (unit : SourceUnit) : Bool := unit.comments.isEmpty && unit.items.isEmpty

/-- A unit with more items at its end. -/
def addItems (unit : SourceUnit) (items : List Item) : SourceUnit :=
  { unit with items := unit.items ++ items }

instance : Render SourceUnit where
  instructions unit := instructions unit.comments ++ instructions unit.items

end SourceUnit
end CSource
