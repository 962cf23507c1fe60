import CSource.CType.Builtin
import CSource.Proofs.Declarator.Around
import CSource.Proofs.Declarator.ReadBack

/-!
# Declarations without their words

Words before and after types and linkages change nothing about the steps around a name: where
the pointers, arrays and functions are, how long the arrays are and how many parameters the
functions have (`Reading.outline`). That holds exactly for the types whose declaration is read at
all, and those are the ones with every star and word before the suffixes of what it is applied to
and with contained linkages (`CType.declare_outline_iff`).
-/

namespace CSource

/-- A step without its words and without what its parameters say. -/
inductive Outline where
  /-- A pointer. -/
  | pointer
  /-- An array, with or without a size. -/
  | array (size : Option Nat)
  /-- A function with a number of parameters. -/
  | function (count : Nat)
deriving DecidableEq, Repr

/-- A step without its words. -/
def Derivation.outline : Derivation → Outline
  | pointer _ => .pointer
  | array size => .array size
  | function parameters => .function parameters.length

/-- The steps of a reading without their words. -/
def Reading.outline (reading : Reading) : List Outline := reading.derivations.map Derivation.outline

/-- The words that combine with a type. -/
def Qualifier.all : List Qualifier :=
  [.unsigned, .signed, .const, .static, .register, .volatile, .restrict, .short, .long, .inline,
    .struct, .union, .enum]

/-- The words of a specifier part besides the base type. -/
def specifiers : List String := "extern" :: Qualifier.all.map Qualifier.word

mutual

/-- A type without its words and linkages. -/
def CType.erased : CType → CType
  | .named name => .named name
  | .pointer target => .pointer target.erased
  | .array element size => .array element.erased size
  | .leading _ inner => inner.erased
  | .trailing inner _ => inner.erased
  | .external _ inner => inner.erased
  | .functionPointer result parameters =>
    .functionPointer result.erased (CType.erasedAll parameters)
  | .struct body => .struct body

/-- Types in order without their words and linkages. -/
def CType.erasedAll : List CType → List CType
  | [] => []
  | type :: types => type.erased :: CType.erasedAll types

end

namespace CType

/-- Types are erased one by one. -/
theorem erasedAll_eq_map (types : List CType) : erasedAll types = types.map erased := by
  induction types with
  | nil => rfl
  | cons type types ih => rw [erasedAll, ih, List.map_cons]

/-- Words after a reading change no step but for its words. -/
theorem outline_trail (reading : Reading) (words : List Qualifier) :
    (reading.trail words).outline = reading.outline := by
  have same : ∀ steps, (Derivation.trail words steps).1.map Derivation.outline =
      steps.map Derivation.outline := by
    intro steps
    induction steps with
    | nil => rfl
    | cons step steps ih => cases step <;> simp [Derivation.trail, Derivation.outline, ih]
  exact same reading.derivations

/-- How many parameters a function has depends on how many are listed. -/
theorem length_orVoid (parameters : List Reading) :
    (Reading.orVoid parameters).length = max 1 parameters.length := by
  cases parameters with
  | nil => rfl
  | cons parameter parameters =>
    have length : (Reading.orVoid (parameter :: parameters)).length = parameters.length + 1 := rfl
    rw [length, List.length_cons]
    omega

/-- A type says the same steps without its words and linkages. -/
theorem outline_erased (type : CType) : type.erased.reading.outline = type.reading.outline := by
  induction type using parts_induction with
  | named | struct => rfl
  | pointer target ih => exact congrArg (Outline.pointer :: ·) ih
  | array element size ih => exact congrArg (Outline.array size :: ·) ih
  | leading word inner ih => exact ih
  | trailing inner word ih =>
    rw [erased, ih, reading, outline_trail]
  | external linkage inner ih => cases linkage <;> exact ih
  | functionPointer result parameters ih _ =>
    have count : (Reading.orVoid (readings (erasedAll parameters))).length =
        (Reading.orVoid (readings parameters)).length := by
      rw [length_orVoid, length_orVoid, readings_eq_map, readings_eq_map, erasedAll_eq_map]
      simp only [List.length_map]
    have steps : Outline.pointer ::
        .function (Reading.orVoid (readings (erasedAll parameters))).length ::
          result.erased.reading.outline =
        .pointer :: .function (Reading.orVoid (readings parameters)).length ::
          result.reading.outline := by
      rw [count, ih]
    exact steps

/-- A type without its words and linkages ends in no word. -/
theorem erased_ne_trailing (type inner : CType) (word : Qualifier) :
    type.erased ≠ .trailing inner word := by
  induction type using parts_induction with
  | leading _ _ ih | trailing _ _ ih | external _ _ ih => exact ih
  | named | pointer | array | functionPointer | struct => exact CType.noConfusion

/-- What holds of every type that is no word or linkage, given that the type it came from has
some property, holds of every part of a type without its words and linkages. -/
theorem every_erased {property other : CType → Prop}
    (named : ∀ name, property (.named name) → other (.named name))
    (pointer : ∀ target : CType, other (.pointer target.erased))
    (array : ∀ element size, other (.array element size))
    (functionPointer : ∀ result parameters, other (.functionPointer result parameters))
    (struct : ∀ body, property (.struct body) → other (.struct body)) {type : CType}
    (every : type.Every property) : type.erased.Every other := by
  induction type using parts_induction with
  | named name => exact named name every
  | pointer target ih => exact ⟨pointer target, ih every.2⟩
  | array element size ih => exact ⟨array _ size, ih every.2⟩
  | leading _ _ ih | trailing _ _ ih | external _ _ ih => exact ih every.2
  | functionPointer result parameters ih ihs =>
    refine ⟨functionPointer _ _, ih every.2.1, everyIn_iff.2 fun type listed => ?_⟩
    rw [erasedAll_eq_map] at listed
    obtain ⟨parameter, mem, rfl⟩ := List.mem_map.1 listed
    exact ihs parameter mem (everyIn_iff.1 every.2.2 parameter mem)
  | struct body => exact struct body every

/-- A type without its words and linkages is plain. -/
theorem isPlain_erased {leads : List String} {type : CType} (worded : type.IsWorded leads) :
    type.erased.IsPlain := by
  have named : ∀ name, IsWordedPart leads (.named name) → IsPlainPart (.named name) :=
    fun _ named => named.1
  have pointer : ∀ target : CType, IsPlainPart (.pointer target.erased) := by
    intro target
    cases shape : target.erased with
    | trailing inner word => exact absurd shape (erased_ne_trailing target inner word)
    | named | pointer | array | leading | external | functionPointer | struct => trivial
  exact every_erased named pointer (fun _ _ => trivial) (fun _ _ => trivial)
    (fun _ struct => struct) worded

/-- A type without its words and linkages has the names that it had. -/
theorem isWorded_erased {leads : List String} {type : CType} (worded : type.IsWorded leads) :
    type.erased.IsWorded leads :=
  every_erased (fun _ named => named) (fun _ => trivial) (fun _ _ => trivial)
    (fun _ _ => trivial) (fun _ struct => struct) worded

/-- A declaration is well formed and says the same steps as without the words and linkages of its
type exactly where every star and word stands before the suffixes of what it is applied to and
every linkage is contained in its quotes. -/
theorem declare_outline_iff {type : CType} (worded : type.IsWorded specifiers) {name : String}
    (named : IsName name) :
    (∃ reading erased, Reading.ofText specifiers (type.declare name) = some reading ∧
        reading.name = some name ∧
        Reading.ofText specifiers (type.erased.declare name) = some erased ∧
        erased.name = some name ∧ reading.outline = erased.outline) ↔
      type.IsPlaced ∧ type.IsContained := by
  have void : "void" ∉ specifiers := by decide
  have token : Token.ofText name = some [.word name] := Token.ofText_identifier named.1
  constructor
  · rintro ⟨reading, _, read, _⟩
    have contained : type.IsContained := by
      apply Classical.byContradiction
      intro loose
      have quoteless := Token.toggles_of_not_mem name (Token.not_mem_identifier named.1)
      rw [declare, ofText_of_not_isContained worded loose quoteless] at read
      contradiction
    refine ⟨Classical.byContradiction fun misplaced => ?_, contained⟩
    rw [declare, ofText_of_not_isPlaced worded misplaced contained token] at read
    contradiction
  · rintro ⟨placed, contained⟩
    have plain : type.erased.IsPlain := isPlain_erased worded
    refine ⟨_, _, ofText_around void worded placed contained token (.name named.2), rfl,
      ofText_around void (isWorded_erased worded) (isPlaced_of_isPlain plain)
        (isContained_of_isPlain plain) token (.name named.2), rfl, ?_⟩
    exact (outline_erased type).symm

/-- The star of a pointer to constant elements of an array is put after the size, where no
declaration has it. -/
theorem declare_pointer_leading :
    let type : CType := .pointer (.leading .const (.array .int (some 3)))
    type.declare "n" = "const int[3]* n" ∧ type.IsWorded specifiers ∧ IsName "n" ∧
      Reading.ofText specifiers (type.declare "n") = none ∧
      ¬ ∃ reading erased, Reading.ofText specifiers (type.declare "n") = some reading ∧
        reading.name = some "n" ∧
        Reading.ofText specifiers (type.erased.declare "n") = some erased ∧
        erased.name = some "n" ∧ reading.outline = erased.outline := by
  intro type
  have worded : type.IsWorded specifiers := by decide
  have unread : Reading.ofText specifiers (type.declare "n") = none :=
    Option.isNone_iff_eq_none.1 (by decide)
  refine ⟨by rfl, worded, by decide, unread, ?_⟩
  rintro ⟨reading, _, read, _⟩
  rw [unread] at read
  contradiction

/-- A constant linked table of pointers says what the table of pointers says. -/
theorem declare_linked :
    let type : CType := .external (some "C") (.array (.trailing (.pointer (.leading .const .char))
      .const) (some 4))
    type.declare "names" = "extern \"C\" const char* const names[4]" ∧
      type.IsWorded specifiers ∧ IsName "names" ∧
      ∃ reading erased, Reading.ofText specifiers (type.declare "names") = some reading ∧
        reading.name = some "names" ∧
        Reading.ofText specifiers (type.erased.declare "names") = some erased ∧
        erased.name = some "names" ∧ reading.outline = erased.outline := by
  intro type
  have worded : type.IsWorded specifiers := by decide
  have named : IsName "names" := by decide
  have placed : type.IsPlaced := by decide
  have contained : type.IsContained := by decide
  exact ⟨by rfl, worded, named, (declare_outline_iff worded named).2 ⟨placed, contained⟩⟩

end CType
end CSource
