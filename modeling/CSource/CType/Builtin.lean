import CSource.CType.Basic

/-!
# Standard types

Types that every C program can name, by their spelling, and the types that are most often built
from others.
-/

namespace CSource.CType

/-- No value. -/
def void : CType := .named "void"
/-- Truth values. -/
def bool : CType := .named "bool"
/-- Characters. -/
def char : CType := .named "char"
/-- Short integers. -/
def short : CType := .named "short"
/-- Integers. -/
def int : CType := .named "int"
/-- Long integers. -/
def long : CType := .named "long"
/-- Floating-point numbers. -/
def float : CType := .named "float"
/-- Floating-point numbers of double precision. -/
def double : CType := .named "double"
/-- Signed integers of 8 bits. -/
def int8 : CType := .named "int8_t"
/-- Signed integers of 16 bits. -/
def int16 : CType := .named "int16_t"
/-- Signed integers of 32 bits. -/
def int32 : CType := .named "int32_t"
/-- Signed integers of 64 bits. -/
def int64 : CType := .named "int64_t"
/-- Unsigned integers of 8 bits. -/
def uint8 : CType := .named "uint8_t"
/-- Unsigned integers of 16 bits. -/
def uint16 : CType := .named "uint16_t"
/-- Unsigned integers of 32 bits. -/
def uint32 : CType := .named "uint32_t"
/-- Unsigned integers of 64 bits. -/
def uint64 : CType := .named "uint64_t"
/-- Sizes of objects. -/
def size : CType := .named "size_t"
/-- Differences of pointers. -/
def ptrdiff : CType := .named "ptrdiff_t"
/-- Signed integers that hold a pointer. -/
def intptr : CType := .named "intptr_t"
/-- Unsigned integers that hold a pointer. -/
def uintptr : CType := .named "uintptr_t"

end CSource.CType
