/-!
# Widths of whole numbers

Whole numbers come in ten widths, signed and unsigned.
-/

namespace CSource

/-- The widths that whole numbers come in. -/
inductive Width where
  /-- Eight bits, signed. -/
  | int8
  /-- Sixteen bits, signed. -/
  | int16
  /-- Thirty-two bits, signed. -/
  | int32
  /-- Sixty-four bits, signed. -/
  | int64
  /-- The bits of an address, signed. -/
  | isize
  /-- Eight bits, unsigned. -/
  | uint8
  /-- Sixteen bits, unsigned. -/
  | uint16
  /-- Thirty-two bits, unsigned. -/
  | uint32
  /-- Sixty-four bits, unsigned. -/
  | uint64
  /-- The bits of an address, unsigned. -/
  | usize

namespace Width

/-- The whole numbers of a width. -/
def Carrier : Width → Type
  | int8 => Int8
  | int16 => Int16
  | int32 => Int32
  | int64 => Int64
  | isize => ISize
  | uint8 => UInt8
  | uint16 => UInt16
  | uint32 => UInt32
  | uint64 => UInt64
  | usize => USize

/-- The value of a whole number of a width. -/
def toInt : (width : Width) → width.Carrier → Int
  | int8, (value : Int8) => value.toInt
  | int16, (value : Int16) => value.toInt
  | int32, (value : Int32) => value.toInt
  | int64, (value : Int64) => value.toInt
  | isize, (value : ISize) => value.toInt
  | uint8, (value : UInt8) => value.toNat
  | uint16, (value : UInt16) => value.toNat
  | uint32, (value : UInt32) => value.toNat
  | uint64, (value : UInt64) => value.toNat
  | usize, (value : USize) => value.toNat

end Width
end CSource
