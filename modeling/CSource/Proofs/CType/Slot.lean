import CSource.CType.Builtin
import CSource.Proofs.CType.Parts

/-!
# The place of a name

A declaration of a name and the spelling of its type are one text, with the name and without it.
The name goes into a slot that the type alone decides: something before it, a space or none, and
something after it (`CType.exists_slot`). The slot is built as the declaration is, from the name
outwards, and what stands before the name decides whether a base needs a space.
-/

namespace CSource

/-- The place of a name in a text. -/
structure Slot where
  /-- What stands before the name, and before the space if there is one. -/
  before : String
  /-- Whether a space separates the name from what stands before it. -/
  spaced : Bool
  /-- What stands after the name. -/
  after : String

/-- Whether a name can be told from an empty declarator and from the size of an array. -/
def IsDeclarable (name : String) : Prop := name ≠ "" ∧ name.toList.head? ≠ some '['

instance : DecidablePred IsDeclarable := fun _ => inferInstanceAs (Decidable (_ ∧ _))

namespace Slot

variable {slot : Slot} {text : String → String}

/-- What separates a name from what stands before it. -/
def gap (slot : Slot) : String := if slot.spaced then " " else ""

/-- The text with a name in its place. -/
def fill (slot : Slot) (name : String) : String := slot.before ++ slot.gap ++ name ++ slot.after

/-- Whether a text that is built from a name is a slot with the name in it. Without a name it is
what stands around the slot. -/
structure Holds (slot : Slot) (text : String → String) : Prop where
  /-- A name is put into the slot. -/
  named : ∀ name, IsDeclarable name → text name = slot.fill name
  /-- Without a name there is neither name nor space. -/
  unnamed : text "" = slot.before ++ slot.after

/-- Whether what is in a slot is a declarator, with or without a name: it begins with the name,
and has at most sizes of arrays after it, or else with something that is no such size. -/
inductive IsDeclarator : Slot → Prop where
  /-- The name alone. -/
  | name : IsDeclarator ⟨"", false, ""⟩
  /-- The name before the size of an array. -/
  | sized {after : String} (size : after.toList.head? = some '[') : IsDeclarator ⟨"", false, after⟩
  /-- The name after something else. -/
  | later {before after : String} {spaced : Bool} {first : Char}
    (start : before.toList.head? = some first) (other : first ≠ '[') :
    IsDeclarator ⟨before, spaced, after⟩

/-- A slot between two texts. -/
def between (front : String) (slot : Slot) (back : String) : Slot :=
  ⟨front ++ slot.before, slot.spaced, slot.after ++ back⟩

/-- What is put around a text is put around its slot. -/
theorem Holds.between (holds : slot.Holds text) (front back : String) :
    (slot.between front back).Holds fun name => front ++ text name ++ back where
  named name declarable := by
    rw [holds.named name declarable]
    simp only [fill, gap, Slot.between, String.append_assoc]
    rfl
  unnamed := by
    rw [holds.unnamed]
    simp [Slot.between, String.append_assoc]

/-- A slot after a text that does not begin as the size of an array does is a declarator. -/
theorem IsDeclarator.between {front : String} {first : Char}
    (start : front.toList.head? = some first) (other : first ≠ '[') (slot : Slot) (back : String) :
    (slot.between front back).IsDeclarator := by
  refine @IsDeclarator.later _ _ _ first ?_ other
  rw [String.toList_append, List.head?_append, start]
  rfl

/-- A declarator before the size of an array is a declarator. -/
theorem IsDeclarator.append {size : String} (isDeclarator : slot.IsDeclarator)
    (bracket : size.toList.head? = some '[') : (slot.between "" size).IsDeclarator := by
  cases isDeclarator with
  | name =>
    have only : Slot.between "" ⟨"", false, ""⟩ size = ⟨"", false, size⟩ := by simp [Slot.between]
    rw [only]
    exact .sized bracket
  | @sized after sized =>
    have both : Slot.between "" ⟨"", false, after⟩ size = ⟨"", false, after ++ size⟩ := by
      simp [Slot.between]
    rw [both]
    refine .sized ?_
    rw [String.toList_append, List.head?_append, sized]
    rfl
  | @later before after spaced first start other =>
    have same : Slot.between "" ⟨before, spaced, after⟩ size = ⟨before, spaced, after ++ size⟩ := by
      simp [Slot.between]
    rw [same]
    exact .later start other

end Slot

namespace CType

variable {slot : Slot} {text : String → String}

/-- A base and a declarator that begins with anything but the size of an array have a space between
them. -/
theorem attach_of_head {declarator : String} {first : Char}
    (start : declarator.toList.head? = some first) (other : first ≠ '[') (base : String) :
    attach base declarator = base ++ " " ++ declarator := by
  obtain ⟨rest, shape⟩ := List.head?_eq_some_iff.1 start
  simp [attach, shape, other]

/-- A base and the size of an array have nothing between them. -/
theorem attach_of_bracket {declarator : String} (start : declarator.toList.head? = some '[')
    (base : String) : attach base declarator = base ++ declarator := by
  obtain ⟨rest, shape⟩ := List.head?_eq_some_iff.1 start
  simp [attach, shape]

/-- A base and a declarator that begins with a name have a space between them. -/
theorem attach_of_isDeclarable {name : String} (declarable : IsDeclarable name)
    (base rest : String) : attach base (name ++ rest) = base ++ " " ++ (name ++ rest) := by
  obtain ⟨nonempty, other⟩ := declarable
  cases shape : name.toList with
  | nil => exact absurd (String.toList_eq_nil_iff.1 shape) nonempty
  | cons first others =>
    have start : (name ++ rest).toList.head? = some first := by simp [shape]
    refine attach_of_head start ?_ base
    rintro rfl
    simp [shape] at other

/-- A base before a declarator has a slot for the name. -/
theorem exists_slot_attach (holds : slot.Holds text) (isDeclarator : slot.IsDeclarator)
    (base : String) : ∃ outer : Slot, outer.Holds fun name => attach base (text name) := by
  cases isDeclarator with
  | name =>
    refine ⟨⟨base, true, ""⟩, fun name declarable => ?_, ?_⟩
    · have spaced := attach_of_isDeclarable declarable base ""
      simpa [holds.named name declarable, Slot.fill, Slot.gap] using spaced
    · have alone : attach base "" = base := rfl
      simpa [holds.unnamed] using alone
  | @sized after size =>
    refine ⟨⟨base, true, after⟩, fun name declarable => ?_, ?_⟩
    · have spaced := attach_of_isDeclarable declarable base after
      simpa [holds.named name declarable, Slot.fill, Slot.gap, String.append_assoc] using spaced
    · have joined := attach_of_bracket size base
      simpa [holds.unnamed] using joined
  | @later before after spaced first start other =>
    -- With or without a name the declarator begins alike, so that the same space is put before it.
    have begins (rest : String) :
        attach base (before ++ rest) = base ++ " " ++ (before ++ rest) := by
      refine attach_of_head ?_ other base
      rw [String.toList_append, List.head?_append, start]
      rfl
    refine ⟨Slot.between (base ++ " ") ⟨before, spaced, after⟩ "", fun name declarable => ?_, ?_⟩
    · rw [← (holds.between (base ++ " ") "").named name declarable, holds.named name declarable,
        Slot.fill, String.append_assoc, String.append_assoc, begins, String.append_empty]
    · rw [← (holds.between (base ++ " ") "").unnamed, holds.unnamed, begins, String.append_empty]

/-- A word before a declarator is a declarator. -/
theorem exists_slot_wordBefore (holds : slot.Holds text) (isDeclarator : slot.IsDeclarator)
    (word : Qualifier) :
    ∃ outer : Slot, outer.Holds (fun name => wordBefore word (text name)) ∧ outer.IsDeclarator := by
  obtain ⟨first, start, other⟩ : ∃ first, word.word.toList.head? = some first ∧ first ≠ '[' := by
    cases word <;> exact ⟨_, rfl, by decide⟩
  by_cases alone : slot = ⟨"", false, ""⟩
  · subst alone
    refine ⟨⟨word.word, true, ""⟩, ⟨fun name declarable => ?_, ?_⟩, .later start other⟩
    · simp [wordBefore, holds.named name declarable, Slot.fill, Slot.gap, declarable.1]
    · simp [wordBefore, holds.unnamed]
  · -- The declarator is never empty, so that the word and a space are put before it in any case.
    have around : slot.before ++ slot.after ≠ "" := by
      cases isDeclarator with
      | name => exact absurd rfl alone
      | sized size => rintro none; simp_all
      | later start other => rintro none; simp_all
    have before {declarator : String} (nonempty : declarator ≠ "") :
        wordBefore word declarator = word.word ++ " " ++ declarator := if_neg nonempty
    refine ⟨slot.between (word.word ++ " ") "", ⟨fun name declarable => ?_, ?_⟩, ?_⟩
    · have filled : slot.fill name ≠ "" := by simp [Slot.fill, declarable.1]
      rw [← (holds.between (word.word ++ " ") "").named name declarable,
        holds.named name declarable, before filled, String.append_empty]
    · rw [← (holds.between (word.word ++ " ") "").unnamed, holds.unnamed, before around,
        String.append_empty]
    · refine @Slot.IsDeclarator.between _ first ?_ other slot ""
      rw [String.toList_append, List.head?_append, start]
      rfl

/-- Around a declarator with a slot for a name, every type has a slot for that name. -/
theorem exists_slot_declarator (type : CType) (holds : slot.Holds text)
    (isDeclarator : slot.IsDeclarator) :
    ∃ outer : Slot, outer.Holds fun name => type.declarator (text name) := by
  induction type using parts_induction generalizing slot text with
  | named name =>
    simpa only [declarator] using exists_slot_attach holds isDeclarator name
  | struct body =>
    simpa only [declarator] using exists_slot_attach holds isDeclarator body.spelling
  | pointer target around =>
    cases place : target.starPlace with
    | parenthesized =>
      have starred := around (holds.between "(*" ")") (.between rfl (by decide) slot ")")
      simpa only [declarator, place] using starred
    | name =>
      have starred := around (holds.between "*" "") (.between rfl (by decide) slot "")
      simpa only [declarator, place, String.append_empty] using starred
    | target =>
      have attached := exists_slot_attach holds isDeclarator (target.declarator "" ++ "*")
      simpa only [declarator, place] using attached
  | array element size around =>
    have bracket : (brackets size).toList.head? = some '[' := by cases size <;> simp [brackets]
    have sized := around (holds.between "" (brackets size)) (isDeclarator.append bracket)
    simpa only [declarator, String.empty_append] using sized
  | leading word inner around =>
    obtain ⟨outer, held⟩ := around holds isDeclarator
    have worded := held.between (word.word ++ " ") ""
    exact ⟨_, by simpa only [declarator, String.append_empty] using worded⟩
  | trailing inner word around =>
    by_cases binds : inner.bindsTighter
    · obtain ⟨worded, held, begins⟩ := exists_slot_wordBefore holds isDeclarator word
      simpa only [declarator, binds, if_true] using around held begins
    · have attached :=
        exists_slot_attach holds isDeclarator (inner.declarator "" ++ " " ++ word.word)
      simpa only [declarator, binds, Bool.false_eq_true, if_false] using attached
  | external linkage inner around =>
    obtain ⟨outer, held⟩ := around holds isDeclarator
    have linked := held.between (linkageWords linkage) ""
    exact ⟨_, by simpa only [declarator, String.append_empty] using linked⟩
  | functionPointer result parameters around _ =>
    have called := around (holds.between "(*" (")(" ++ parameterList (spellings parameters) ++ ")"))
      (.between rfl (by decide) slot _)
    simpa only [declarator, String.append_assoc] using called

/-- Every type has a slot for the name that is declared with it. -/
theorem exists_slot (type : CType) : ∃ slot : Slot, slot.Holds type.declare :=
  have alone : Slot.Holds ⟨"", false, ""⟩ id :=
    ⟨fun name _ => by simp [Slot.fill, Slot.gap], rfl⟩
  exists_slot_declarator type alone .name

/-- The spellings of types in a row are those of each part. -/
theorem spellings_append (left right : List CType) :
    spellings (left ++ right) = spellings left ++ spellings right := by
  simp [spellings_eq_map]

/-- A declaration of a name is the spelling of the type with the name put into it: a place before
which and after which the same stands, whatever the name is, with a space before the name or not.
So a conversion, a size and a list of parameters spell the type that a variable is declared
with. -/
theorem declare_eq_around (type : CType) :
    ∃ before gap after : String, (gap = "" ∨ gap = " ") ∧
      (∀ name, name ≠ "" → name.toList.head? ≠ some '[' →
        type.declare name = before ++ gap ++ name ++ after) ∧
      type.spelling = before ++ after ∧
      type.sizeof.code = "sizeof(" ++ (before ++ after) ++ ")" ∧
      (∀ operand : Expr, (operand.cast type).code =
        "(" ++ (before ++ after) ++ ") " ++ operand.code) ∧
      ∀ front back, spellings (front ++ type :: back) =
        spellings front ++ (before ++ after) :: spellings back := by
  obtain ⟨slot, holds⟩ := type.exists_slot
  have spelled : type.spelling = slot.before ++ slot.after := holds.unnamed
  refine ⟨slot.before, slot.gap, slot.after, ?_, fun name nonempty other => ?_, spelled, ?_,
    fun operand => ?_, fun front back => ?_⟩
  · cases spaced : slot.spaced <;> simp [Slot.gap, spaced]
  · exact holds.named name ⟨nonempty, other⟩
  · rw [← spelled]
    rfl
  · rw [← spelled]
    rfl
  · rw [spellings_append, ← spelled]
    rfl

example :
    let handler := (functionPointer int [.struct ⟨some "event", []⟩]).trailing .const
    let table := (handler.array (some 2)).pointer
    table.declare "handlers" = "int (*const (*handlers)[2])(struct event \x7b\x7d)" ∧
      table.spelling = "int (*const (*)[2])(struct event \x7b\x7d)" := by decide

end CType
end CSource
