import CSource.Literal.Basic

/-!
# Values as literals

Numbers become the values that the JSON library converts them to. Floating-point numbers are told
apart from infinities before that, since the library has no number for them. An optional value is
its content, or nothing.
-/

namespace CSource

/-- Types whose values can be given as literals. -/
class ToLiteral [JsonLibrary] (α : Type) where
  /-- The literal of a value. -/
  toLiteral : α → Literal

export ToLiteral (toLiteral)

section

variable [JsonLibrary]

namespace Literal

/-- Nothing as a literal. -/
def null : Literal := .json .null

/-- The literal of a converted number, if the number is finite. -/
def ofFinite (finite : Bool) (value : Json) : Literal := if finite then .json value else .nonFinite

end Literal

instance : ToLiteral Literal := ⟨id⟩
instance : ToLiteral Json := ⟨.json⟩
instance : ToLiteral Unit := ⟨fun _ => .null⟩
instance : ToLiteral Bool := ⟨fun value => .json (.bool value)⟩
instance : ToLiteral String := ⟨fun value => .json (.string value)⟩

/-- A whole number of a width is given as its converted value. -/
instance wholeLiteral (width : Width) : ToLiteral width.Carrier :=
  ⟨fun value => .json (JsonLibrary.ofWhole width value)⟩

instance : ToLiteral Int8 := wholeLiteral .int8
instance : ToLiteral Int16 := wholeLiteral .int16
instance : ToLiteral Int32 := wholeLiteral .int32
instance : ToLiteral Int64 := wholeLiteral .int64
instance : ToLiteral ISize := wholeLiteral .isize
instance : ToLiteral UInt8 := wholeLiteral .uint8
instance : ToLiteral UInt16 := wholeLiteral .uint16
instance : ToLiteral UInt32 := wholeLiteral .uint32
instance : ToLiteral UInt64 := wholeLiteral .uint64
instance : ToLiteral USize := wholeLiteral .usize

instance : ToLiteral Float32 :=
  ⟨fun value => .ofFinite value.isFinite (JsonLibrary.ofSingle value)⟩

instance : ToLiteral Float :=
  ⟨fun value => .ofFinite value.isFinite (JsonLibrary.ofDouble value)⟩

/-- An optional value is its content, or nothing. -/
instance {α : Type} [ToLiteral α] : ToLiteral (Option α) where
  toLiteral
    | some value => toLiteral value
    | none => .null

end

end CSource
