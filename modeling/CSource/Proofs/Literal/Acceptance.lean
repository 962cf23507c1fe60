import CSource.Expr.Basic
import CSource.Proofs.Literal.Standard

/-!
# Which values have a literal

Values of many types can be given as literals, under any number of options (`InputType`). All that
counts is what stands below the options (`InputType.content`): truth values, arrays, objects and
numbers that are not finite are refused with their kind, what is absent or null is the null pointer
constant, and a whole number is its decimal, whichever width it came in (`Expr.value_accepts`). This
holds with every JSON library that converts and writes numbers as JSON has them.
-/

namespace CSource

open JsonLibrary (Converts ofDouble ofSingle)
open JsonNumbers (Prints)

/-- The types of the values that can be given as literals. -/
inductive InputType where
  /-- The type of one value. -/
  | unit
  /-- Truth values. -/
  | bool
  /-- Texts. -/
  | text
  /-- Whole numbers of a width. -/
  | whole (width : Width)
  /-- Numbers of the 32-bit binary format. -/
  | single
  /-- Numbers of the 64-bit binary format. -/
  | double
  /-- JSON values. -/
  | json
  /-- Values of another type, or nothing. -/
  | option (inner : InputType)

/-- What a value comes to as a literal. -/
inductive Content where
  /-- Nothing. -/
  | null
  /-- A text. -/
  | text (value : String)
  /-- A whole number. -/
  | whole (value : Int)
  /-- A finite binary number. -/
  | binary
  /-- A value of a kind that has no literal, with the word for the kind. -/
  | refused (kind : String)
deriving DecidableEq

/-- What a number comes to. -/
def Number.content : Number → Content
  | integer value => .whole value
  | binary _ => .binary

/-- What starts a number is not the null pointer constant. -/
theorem StartsNumber.ne_null {text : String} (starts : StartsNumber text) : text ≠ "NULL" := by
  rintro rfl
  obtain ⟨char, head, first⟩ := starts
  obtain rfl : 'N' = char := Option.some.inj head
  exact absurd first (by decide)

/-- The literal of a text is not the null pointer constant. -/
theorem Text.quoted_ne_null (text : String) : quoted text ≠ "NULL" := by
  intro same
  have first := congrArg (·.toList.head?) same
  simp [quoted] at first

section

variable [JsonLibrary]

/-- What a JSON value comes to. -/
def Json.content : Json → Content
  | null => .null
  | string value => .text value
  | number numeral => (JsonNumbers.value numeral).content
  | bool _ => .refused "boolean"
  | array _ => .refused "array"
  | object _ => .refused "object"

namespace InputType

/-- The values of a type. -/
def Carrier : InputType → Type
  | unit => Unit
  | bool => Bool
  | text => String
  | whole width => width.Carrier
  | single => Float32
  | double => Float
  | json => Json
  | option inner => Option inner.Carrier

/-- A value of a type is given as a literal the way its content is. -/
instance literals : (type : InputType) → ToLiteral type.Carrier
  | unit => inferInstanceAs (ToLiteral Unit)
  | bool => inferInstanceAs (ToLiteral Bool)
  | text => inferInstanceAs (ToLiteral String)
  | whole width => wholeLiteral width
  | single => inferInstanceAs (ToLiteral Float32)
  | double => inferInstanceAs (ToLiteral Float)
  | json => inferInstanceAs (ToLiteral Json)
  | option inner =>
    have := inner.literals
    inferInstanceAs (ToLiteral (Option inner.Carrier))

/-- What a value of a type comes to: an absent one to nothing, at whichever option it is absent, and
any other to what stands below its options. -/
def content : (type : InputType) → type.Carrier → Content
  | unit, _ => .null
  | bool, _ => .refused "boolean"
  | text, (value : String) => .text value
  | whole width, value => .whole (width.toInt value)
  | single, (value : Float32) => if value.isFinite then .binary else .refused "non-finite number"
  | double, (value : Float) => if value.isFinite then .binary else .refused "non-finite number"
  | json, (value : Json) => value.content
  | option _, none => .null
  | option inner, some value => inner.content value

end InputType

/-- Whether a spelling or a refusal is the one for what a value comes to. -/
def Content.IsSpelled : Content → Except UnsupportedValue String → Prop
  | null, spelling => spelling = .ok "NULL"
  | text value, spelling => spelling = .ok (Text.quoted value)
  | whole value, spelling => spelling = .ok (toString value)
  | binary, spelling => ∃ numeral, spelling = .ok (JsonNumbers.text numeral)
  | refused kind, spelling => ∃ refused, spelling = .error refused ∧ refused.kind = kind

/-- A number is spelled by what it comes to. -/
theorem Literal.isSpelled_number (prints : Prints) {numeral : JsonNumbers.Numeral}
    {number : Number} (stands : JsonNumbers.value numeral = number) :
    number.content.IsSpelled (Literal.json (.number numeral)).spelling := by
  cases number with
  | integer value => exact congrArg Except.ok (prints.whole numeral value stands)
  | binary value => exact ⟨numeral, rfl⟩

/-- A JSON value is spelled by what it comes to. -/
theorem Json.isSpelled (prints : Prints) (value : Json) :
    value.content.IsSpelled (Literal.json value).spelling := by
  cases value with
  | null | string value => rfl
  | number numeral => exact Literal.isSpelled_number prints rfl
  | bool value | array items | object members => exact ⟨_, rfl, rfl⟩

/-- A number of a binary format is spelled where it is finite. -/
theorem Literal.isSpelled_ofFinite (prints : Prints) {finite : Bool} {value : Json}
    (converted : finite = true →
      ∃ numeral wide, value = .number numeral ∧ JsonNumbers.value numeral = .binary wide) :
    (if finite then Content.binary else .refused "non-finite number").IsSpelled
      (ofFinite finite value).spelling := by
  cases finite with
  | false => exact ⟨.nonFiniteNumber, rfl, rfl⟩
  | true =>
    obtain ⟨numeral, wide, rfl, stands⟩ := converted rfl
    exact isSpelled_number prints stands

/-- A value of any type is spelled by what it comes to. -/
theorem InputType.isSpelled (converts : Converts) (prints : Prints) (type : InputType)
    (input : type.Carrier) : (type.content input).IsSpelled (toLiteral input).spelling := by
  induction type with
  | unit | text => rfl
  | bool => exact ⟨_, rfl, rfl⟩
  | whole width =>
    obtain ⟨numeral, converted, stands⟩ := converts.whole width input
    have literal : toLiteral input = .json (.number numeral) := congrArg Literal.json converted
    rw [literal]
    exact Literal.isSpelled_number prints stands
  | single =>
    refine Literal.isSpelled_ofFinite prints fun finite => ?_
    obtain ⟨wide, bits⟩ := Binary.exists_bits_eq_widen finite
    obtain ⟨numeral, converted, stands⟩ := converts.single input wide bits
    exact ⟨numeral, wide, converted, stands⟩
  | double =>
    refine Literal.isSpelled_ofFinite prints fun finite => ?_
    obtain ⟨number, same⟩ := Binary.exists_toFloat_eq finite
    obtain ⟨numeral, converted, stands⟩ := converts.double number
    rw [same] at converted
    exact ⟨numeral, number, converted, stands⟩
  | json => exact Json.isSpelled prints input
  | option inner ih =>
    match input with
    | none => rfl
    | some value => exact ih value

/-- If it were not for the test before the conversion, a number that is not finite would be spelled
as the null pointer constant. -/
theorem Literal.spelling_of_not_finite (converts : Converts) :
    (∀ number : Float, number.isFinite = false → (json (ofDouble number)).spelling = .ok "NULL") ∧
      ∀ number : Float32, number.isFinite = false →
        (json (ofSingle number)).spelling = .ok "NULL" :=
  ⟨fun number infinite => congrArg (fun value => (json value).spelling)
      (converts.doubleNull number infinite),
    fun number infinite => congrArg (fun value => (json value).spelling)
      (converts.singleNull number infinite)⟩

namespace Content

variable {content : Content} {spelling : Except UnsupportedValue String}

/-- A refusal is for what is refused, with the word for its kind. -/
theorem IsSpelled.error_iff (spelled : content.IsSpelled spelling) (kind : String) :
    (∃ refused, spelling = .error refused ∧ refused.kind = kind) ↔ content = .refused kind := by
  cases content with
  | null | text value | whole value =>
    cases spelled
    simp
  | binary =>
    obtain ⟨value, rfl⟩ := spelled
    simp
  | refused other =>
    obtain ⟨refused, rfl, rfl⟩ := spelled
    simp

/-- The null pointer constant is for nothing. -/
theorem IsSpelled.null_iff (prints : Prints) (spelled : content.IsSpelled spelling) :
    spelling = .ok "NULL" ↔ content = .null := by
  cases content with
  | null => exact ⟨fun _ => rfl, fun _ => spelled⟩
  | text value =>
    cases spelled
    simpa using Text.quoted_ne_null value
  | whole value =>
    cases spelled
    simpa using (isDecimal_toString value).startsNumber.ne_null
  | binary =>
    obtain ⟨numeral, rfl⟩ := spelled
    simpa using (prints.starts numeral).ne_null
  | refused kind =>
    obtain ⟨refused, rfl, rfl⟩ := spelled
    simp

end Content

/-- A value is refused as its literal is. -/
theorem Expr.value_eq_error_iff {α : Type} [ToLiteral α] {content : α}
    {refused : UnsupportedValue} :
    Expr.value content = .error refused ↔ (toLiteral content).spelling = .error refused := by
  unfold Expr.value
  cases (toLiteral content).spelling <;> simp [Except.map]

/-- The code of a value is the spelling of its literal. -/
theorem Expr.value_eq_ok_iff {α : Type} [ToLiteral α] {content : α} {expr : Expr} :
    Expr.value content = .ok expr ↔ (toLiteral content).spelling = .ok expr.code := by
  unfold Expr.value
  cases expr
  cases (toLiteral content).spelling <;> simp [Except.map]

/-- With a library that converts and writes numbers as JSON has them, a value is refused exactly
where a truth value, an array, an object or a number that is not finite stands below its options,
with the word for that kind. It is the null pointer constant exactly where it is absent or null. A
whole number is its decimal, whichever width it came in, and no other number has that code. -/
theorem Expr.value_accepts (converts : Converts) (prints : Prints) {type : InputType}
    (input : type.Carrier) :
    (∀ kind, (∃ refused, Expr.value input = .error refused ∧ refused.kind = kind) ↔
        type.content input = .refused kind) ∧
      (Expr.value input = .ok .null ↔ type.content input = .null) ∧
      ∀ number, type.content input = .whole number →
        ∃ expr, Expr.value input = .ok expr ∧ IsDecimal expr.code number ∧
          ∀ {other : InputType} (another : other.Carrier) (second : Int),
            other.content another = .whole second →
              (Expr.value another = .ok expr ↔ second = number) := by
  have spelled := type.isSpelled converts prints input
  -- The code of a whole number is known from the number alone.
  have decimal {other : InputType} {another : other.Carrier} {second : Int}
      (whole : other.content another = .whole second) :
      (toLiteral another).spelling = .ok (toString second) := by
    have same := other.isSpelled converts prints another
    rwa [whole] at same
  refine ⟨fun kind => ?_, ?_, fun number whole => ?_⟩
  · simpa only [Expr.value_eq_error_iff] using spelled.error_iff kind
  · exact Expr.value_eq_ok_iff.trans (spelled.null_iff prints)
  · refine ⟨⟨toString number⟩, Expr.value_eq_ok_iff.2 (decimal whole), isDecimal_toString number,
      fun another second other => ?_⟩
    rw [Expr.value_eq_ok_iff, decimal other]
    constructor
    · intro same
      have code := isDecimal_toString second
      rw [Except.ok.inj same] at code
      exact code.unique (isDecimal_toString number)
    · rintro rfl
      rfl

end

/-- The least signed number of 64 bits is its decimal below two options, the greatest unsigned one
has another, and what is no number is refused below an option. -/
theorem Expr.value_accepts_extremes :
    let nested := InputType.option (.option (.whole .int64))
    let least : nested.Carrier := some (some Int64.minValue)
    let greatest : (InputType.whole .uint64).Carrier := (18446744073709551615 : UInt64)
    let unknown : (InputType.option .single).Carrier := some (Float32.ofBits 0x7fc00000)
    Converts ∧ Prints ∧ nested.content least = .whole (-9223372036854775808) ∧
      InputType.content _ greatest = .whole 18446744073709551615 ∧
      (∃ expr, Expr.value least = .ok expr ∧ expr.code = "-9223372036854775808" ∧
        IsDecimal expr.code (-9223372036854775808) ∧ Expr.value greatest ≠ .ok expr) ∧
      ∃ refused, Expr.value unknown = .error refused ∧ refused.kind = "non-finite number" := by
  intro nested least greatest unknown
  have low : nested.content least = .whole (-9223372036854775808) := by decide
  have high : InputType.content _ greatest = .whole 18446744073709551615 := by decide
  have outside : InputType.content _ unknown = .refused "non-finite number" := by decide
  have accepts {type : InputType} (input : type.Carrier) :=
    value_accepts Standard.converts Standard.prints input
  obtain ⟨expr, value, decimal, others⟩ := (accepts least).2.2 _ low
  have other : Expr.value greatest ≠ .ok expr := mt (others greatest _ high).1 (by decide)
  have refused := ((accepts unknown).1 _).2 outside
  obtain rfl : Expr.mk (toString Int64.minValue.toInt) = expr := Except.ok.inj value
  exact ⟨Standard.converts, Standard.prints, low, high, ⟨_, value, by decide, decimal, other⟩,
    refused⟩

end CSource
