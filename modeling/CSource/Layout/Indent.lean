/-!
# Indentation styles

The style says what stands at the start of a line for each level of depth. Widths of two, four
and eight spaces are written as they are; every other width is written as four. Two styles are
equal only when their widths are, even where they are written alike.
-/

namespace CSource

/-- How a level of depth is written. -/
inductive Indent where
  /-- A number of spaces. -/
  | spaces (width : UInt8)
  /-- One tab character. -/
  | tab
deriving DecidableEq, Repr

namespace Indent

/-- Four spaces, the usual style of generated C. -/
def standard : Indent := .spaces 4

/-- Two spaces. -/
def compact : Indent := .spaces 2

/-- One tab, the style of the kernel sources. -/
def kernel : Indent := .tab

instance : Inhabited Indent := ⟨standard⟩

/-- The text of one level. -/
def unit : Indent → String
  | spaces 2 => "  "
  | spaces 8 => "        "
  | spaces _ => "    "
  | tab => "\t"

/-- The text of a number of levels. -/
def margin (style : Indent) : Nat → String
  | 0 => ""
  | level + 1 => style.unit ++ style.margin level

/-- The margin of a sum of levels is the two margins in a row. -/
theorem margin_add (style : Indent) (outer inner : Nat) :
    style.margin (outer + inner) = style.margin outer ++ style.margin inner := by
  induction outer with
  | zero => simp [margin]
  | succ outer ih => rw [Nat.succ_add, margin, ih, margin, String.append_assoc]

/-- A margin is made of spaces and tabs. -/
theorem mem_margin {style : Indent} {level : Nat} {char : Char}
    (mem : char ∈ (style.margin level).toList) : char = ' ' ∨ char = '\t' := by
  have unit : ∀ char ∈ style.unit.toList, char = ' ' ∨ char = '\t' := by
    unfold Indent.unit
    split <;> simp
  induction level with
  | zero => exact absurd mem List.not_mem_nil
  | succ level ih =>
    rw [margin, String.toList_append, List.mem_append] at mem
    exact mem.elim (unit char) ih

end Indent
end CSource
