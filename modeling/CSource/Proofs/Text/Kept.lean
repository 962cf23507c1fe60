import CSource.Proofs.Number.Whole
import CSource.Proofs.Text.Braces
import CSource.Proofs.Text.Lines

/-!
# What spellings keep

Spellings put texts in a row, quote them, and stand fixed words and braces around them. A property
that survives all of this holds of every spelling whose parts have it (`IsKept`), and a fixed text
before or after such a spelling makes it a line (`IsLined`). Bare parts make inline texts in this
way (`IsBare.isKept`), and unbroken parts make unbroken ones (`IsUnbroken.isLined`).
-/

namespace CSource.Text

/-- Whether a text is one that spellings may fix: it has no brace, number sign or control
character. -/
def IsFixed (text : String) : Prop :=
  ∀ char ∈ text.toList, ' ' ≤ char ∧ char ∉ ['\x7b', '\x7d', '#']

instance : DecidablePred IsFixed := fun text =>
  decidable_of_iff
    (text.toList.all fun char => ' ' ≤ char && ['\x7b', '\x7d', '#'].contains char == false)
    (by simp [IsFixed])

/-- Whether texts with a property are kept in texts with another by everything that spellings do. -/
structure IsKept (part whole : String → Prop) : Prop where
  /-- A part is a text. -/
  own {text : String} : part text → whole text
  /-- A part may be quoted. -/
  quoted {text : String} : part text → whole (Text.quoted text)
  /-- A fixed text may be anywhere. -/
  fixed {text : String} : IsFixed text → whole text
  /-- Texts may be in a row. -/
  append {left right : String} : whole left → whole right → whole (left ++ right)
  /-- A text may be between braces. -/
  braced {text : String} : whole text → whole ("\x7b" ++ text ++ "\x7d")

/-- Whether the texts that are kept make lines of a kind when a fixed text begins or ends them. -/
structure IsLined (part whole line : String → Prop) : Prop extends IsKept part whole where
  /-- A fixed text may begin the line. -/
  begun {start rest : String} : IsFixed start ∧ start ≠ "" → whole rest → line (start ++ rest)
  /-- A fixed text may end the line. -/
  ended {start rest : String} : whole start → IsFixed rest ∧ rest ≠ "" → line (start ++ rest)

variable {part whole line : String → Prop} {text : String}

/-- The empty text is kept. -/
theorem IsKept.empty (kept : IsKept part whole) : whole "" := kept.fixed (by decide)

/-- Texts between a separator are kept. -/
theorem IsKept.intercalate (kept : IsKept part whole) {separator : String}
    (between : whole separator) {texts : List String} (parts : ∀ text ∈ texts, whole text) :
    whole (separator.intercalate texts) := by
  induction texts with
  | nil => exact kept.empty
  | cons text texts ih =>
    have first := parts text List.mem_cons_self
    have rest := ih fun next mem => parts next (List.mem_cons_of_mem _ mem)
    cases texts with
    | nil => simpa using first
    | cons next texts =>
      rw [String.intercalate_cons_cons]
      exact kept.append (kept.append first between) rest

/-- A fixed text may be the whole line. -/
theorem IsLined.alone (lined : IsLined part whole line) (fixed : IsFixed text ∧ text ≠ "") :
    line text := by
  have rest := lined.begun fixed lined.empty
  rwa [String.append_empty] at rest

/-- The digits of a whole number may be fixed. -/
theorem IsFixed.toString (number : Nat) : IsFixed (ToString.toString number) := by
  intro char mem
  have digit := isDigit_of_mem_toString mem
  have printed : ' ' ≤ char := by
    simp [Char.isDigit] at digit
    exact UInt32.le_trans (by decide) digit.1
  refine ⟨printed, fun other => ?_⟩
  simp only [List.mem_cons, List.not_mem_nil, or_false] at other
  rcases other with rfl | rfl | rfl <;> contradiction

/-- Fixed texts in a row are a fixed text. -/
theorem IsFixed.append {left right : String} (first : IsFixed left) (second : IsFixed right) :
    IsFixed (left ++ right) := by
  intro char mem
  rw [String.toList_append, List.mem_append] at mem
  exact mem.elim (first char) (second char)

/-- A fixed text is bare. -/
theorem IsFixed.isBare (fixed : IsFixed text) : IsBare text := by
  intro char mem
  obtain ⟨printed, other⟩ := fixed char mem
  have unbroken : char ≠ '\n' := by
    rintro rfl
    exact absurd printed (by decide)
  simp only [List.mem_cons, List.not_mem_nil, or_false, not_or] at other ⊢
  exact ⟨other.1, other.2.1, other.2.2, unbroken⟩

/-- Bare texts are kept in inline ones. -/
theorem IsBare.isKept : IsKept IsBare IsInline where
  own := IsBare.isInline
  quoted bare := bare.quoted.isInline
  fixed fixed := fixed.isBare.isInline
  append := IsInline.append
  braced := IsInline.braced

/-- A fixed text is unbroken. -/
theorem IsFixed.isUnbroken (fixed : IsFixed text) : IsUnbroken text :=
  ⟨fun mem => absurd (fixed _ mem).1 (by decide), fun mem => absurd (fixed _ mem).1 (by decide)⟩

/-- An escaped text is unbroken. -/
theorem isUnbroken_escape (text : String) : IsUnbroken (escape text) := by
  have each (char : Char) : '\n' ∉ escapeChar char ∧ '\r' ∉ escapeChar char := by
    unfold escapeChar
    split
    case h_7 unreturned _ unbroken _ =>
      exact ⟨mt List.mem_singleton.1 (Ne.symm unbroken),
        mt List.mem_singleton.1 (Ne.symm unreturned)⟩
    all_goals decide
  constructor <;> rw [toList_escape, List.mem_flatMap] <;> rintro ⟨char, _, mem⟩
  · exact (each char).1 mem
  · exact (each char).2 mem

/-- Unbroken texts are kept unbroken. -/
theorem IsUnbroken.isLined : IsLined IsUnbroken IsUnbroken IsUncut where
  own := id
  quoted {text} _ :=
    ((show IsUnbroken "\"" by decide).append (isUnbroken_escape text)).append (by decide)
  fixed := IsFixed.isUnbroken
  append := IsUnbroken.append
  braced inner := ((show IsUnbroken "\x7b" by decide).append inner).append (by decide)
  begun fixed rest := (IsUncut.mk fixed.2 fixed.1.isUnbroken).append rest
  ended start fixed := start.append_uncut ⟨fixed.2, fixed.1.isUnbroken⟩

end CSource.Text
