import CSource.CType.Builtin
import CSource.Proofs.Declarator.Around

/-!
# Reading types back

A type built by pointers, arrays, function pointers and trailing words is read back from its
spelling, alone or around a name. Two things that C does not tell apart are read as one: a word
after an array is a word after its elements, and a list of no parameters is the parameter `void`
(`CType.normal`).
-/

namespace CSource

mutual

/-- The type that a reading says, where nothing stands before its base type. A pointer to a
function is one type; there is no type of functions. -/
def Reading.type? : Reading → Option CType
  | ⟨[], base, words, _, steps⟩ => Derivation.type? (words.foldl .trailing (.named base)) steps
  | ⟨_ :: _, _, _, _, _⟩ => none

/-- The type that some steps lead through to a base type. -/
def Derivation.type? (base : CType) : List Derivation → Option CType
  | [] => some base
  | .array size :: steps => (Derivation.type? base steps).map (.array · size)
  | .pointer words :: .function parameters :: steps => do
    let result ← Derivation.type? base steps
    let parameters ← Reading.types? parameters
    some (words.foldl .trailing (.functionPointer result parameters))
  | .pointer words :: steps => do
    let target ← Derivation.type? base steps
    some (words.foldl .trailing (.pointer target))
  | .function _ :: _ => none

/-- The types that some readings say. -/
def Reading.types? : List Reading → Option (List CType)
  | [] => some []
  | reading :: readings => do
    let type ← reading.type?
    let types ← Reading.types? readings
    some (type :: types)

end

/-- The name, if any, and the type that a text declares. -/
def CType.read? (text : String) : Option (Option String × CType) := do
  let reading ← Reading.ofText [] text
  let type ← reading.type?
  some (reading.name, type)

/-- A type with one more word after it. A word after an array is a word after its elements. -/
def CType.qualify : CType → Qualifier → CType
  | .array element size, word => .array (element.qualify word) size
  | type, word => .trailing type word

mutual

/-- A type without the two differences that C does not make. -/
def CType.normal : CType → CType
  | .named name => .named name
  | .pointer target => .pointer target.normal
  | .array element size => .array element.normal size
  | .leading word inner => .leading word inner.normal
  | .trailing inner word => inner.normal.qualify word
  | .external linkage inner => .external linkage inner.normal
  | .functionPointer result [] => .functionPointer result.normal [.named "void"]
  | .functionPointer result (parameter :: parameters) =>
    .functionPointer result.normal (parameter.normal :: CType.normals parameters)
  | .struct body => .struct body

/-- The normal forms of types in order. -/
def CType.normals : List CType → List CType
  | [] => []
  | type :: types => type.normal :: CType.normals types

end

namespace CType

/-- Whether a part of a type is one of those that are read back: a name, a pointer to anything
but a type that has its words with the name, an array, a pointer to a function or a trailing
word. -/
def IsPlainPart : CType → Prop
  | named name => IsName name
  | pointer (trailing inner _) => inner.bindsTighter = false
  | pointer _ | array .. | functionPointer .. => True
  | trailing _ word => word ∈ Qualifier.trailers
  | leading .. | external .. | struct _ => False

instance : DecidablePred IsPlainPart
  | named name => inferInstanceAs (Decidable (IsName name))
  | pointer (trailing inner _) => inferInstanceAs (Decidable (inner.bindsTighter = false))
  | pointer (named _) | pointer (pointer _) | pointer (array ..) | pointer (leading ..)
  | pointer (external ..) | pointer (functionPointer ..) | pointer (struct _) | array ..
  | functionPointer .. => .isTrue trivial
  | trailing _ word => inferInstanceAs (Decidable (word ∈ Qualifier.trailers))
  | leading .. | external .. | struct _ => .isFalse id

/-- Whether a type is built only from parts that are read back. -/
def IsPlain (type : CType) : Prop := type.Every IsPlainPart

instance : DecidablePred IsPlain := inferInstanceAs (DecidablePred (Every IsPlainPart))

/-- Words after an array are words after its elements. -/
theorem foldl_qualify_array (words : List Qualifier) (element : CType) (size : Option Nat) :
    words.foldl qualify (.array element size) = .array (words.foldl qualify element) size := by
  induction words generalizing element with
  | nil => rfl
  | cons word words ih => exact ih (element.qualify word)

/-- Words after anything but an array stand after it in order. -/
theorem foldl_qualify (words : List Qualifier) {type : CType}
    (other : ∀ element size, type ≠ .array element size) :
    words.foldl qualify type = words.foldl .trailing type := by
  induction words generalizing type with
  | nil => rfl
  | cons word words ih =>
    have one : type.qualify word = .trailing type word := by
      cases type with
      | array element size => exact absurd rfl (other element size)
      | _ => rfl
    rw [List.foldl_cons, List.foldl_cons, one]
    exact ih fun _ _ => CType.noConfusion

/-- The steps from a type never start at a function. -/
theorem reading_derivations (type : CType) (words : List Qualifier) (parameters : List Reading)
    (steps : List Derivation) :
    (type.reading.trail words).derivations ≠ .function parameters :: steps := by
  induction type using parts_induction generalizing words steps with
  | named | struct => simp [CType.reading, Reading.ofBase, Reading.trail, Derivation.trail]
  | pointer target =>
    rw [CType.reading, Reading.trail_derive_pointer]
    simp [Reading.derive]
  | array element size =>
    rw [CType.reading, Reading.trail_derive_array]
    simp [Reading.derive]
  | leading word inner ih => exact ih words steps
  | trailing inner word ih =>
    rw [CType.reading, ← Reading.trail_append]
    exact ih (word :: words) steps
  | external linkage inner ih => cases linkage <;> exact ih words steps
  | functionPointer result others =>
    rw [CType.reading, Reading.trail_derive_pointer]
    simp [Reading.derive]

/-- A pointer step in front of steps that do not start at a function. -/
theorem type?_pointer {base : CType} {steps : List Derivation} (words : List Qualifier)
    (other : ∀ parameters rest, steps ≠ .function parameters :: rest) :
    Derivation.type? base (.pointer words :: steps) =
      (Derivation.type? base steps).map fun target =>
        words.foldl .trailing (.pointer target) := by
  rw [Derivation.type?.eq_4]
  · cases Derivation.type? base steps <;> rfl
  · exact fun parameters rest => other parameters rest

/-- Types are read in order. -/
theorem types?_readings {types : List CType}
    (read : ∀ type ∈ types, type.reading.type? = some type.normal) :
    Reading.types? (CType.readings types) = some (CType.normals types) := by
  induction types with
  | nil => rfl
  | cons type types ih =>
    have first := read type (by simp)
    have rest := ih fun next mem => read next (List.mem_cons_of_mem _ mem)
    rw [CType.readings, Reading.types?, first, rest]
    rfl

/-- Nothing stands before the base type of a plain type. -/
theorem reading_lead {type : CType} (plain : type.IsPlain) : type.reading.lead = [] := by
  induction type using parts_induction with
  | named => rfl
  | pointer _ ih | array _ _ ih | trailing _ _ ih => exact ih plain.2
  | functionPointer _ _ ih _ => exact ih plain.2.1
  | leading | external => exact absurd plain.1 id
  | struct => exact absurd plain id

/-- The type of a reading before whose base type nothing stands. -/
theorem reading_type? {reading : Reading} (alone : reading.lead = []) :
    reading.type? = Derivation.type? (reading.words.foldl .trailing (.named reading.base))
      reading.derivations := by
  obtain ⟨lead, base, words, name, steps⟩ := reading
  obtain rfl : lead = [] := alone
  rw [Reading.type?]

/-- The type of a reading with one more step in front. -/
theorem type?_derive {reading : Reading} (alone : reading.lead = []) (step : Derivation) :
    (reading.derive step).type? = Derivation.type?
      (reading.words.foldl .trailing (.named reading.base)) (step :: reading.derivations) :=
  @reading_type? (reading.derive step) alone

/-- A plain type is what it says, up to normal form. -/
theorem type?_trail {type : CType} (plain : type.IsPlain) (words : List Qualifier) :
    (type.reading.trail words).type? = some (words.foldl qualify type.normal) := by
  -- Words after a type move inwards past its arrays, so the words in hand are any words here.
  induction type using parts_induction generalizing words with
  | named base =>
    rw [CType.normal, foldl_qualify words fun _ _ => CType.noConfusion]
    rfl
  | pointer target ih =>
    have alone : target.reading.lead = [] := reading_lead plain.2
    have unworded := ih plain.2 []
    rw [Reading.trail_nil, reading_type? alone] at unworded
    have other := fun parameters rest => reading_derivations target [] parameters rest
    rw [Reading.trail_nil] at other
    rw [CType.reading, Reading.trail_derive_pointer, type?_derive alone, type?_pointer words other,
      unworded, CType.normal, foldl_qualify words fun _ _ => CType.noConfusion]
    rfl
  | array element size ih =>
    have alone : (element.reading.trail words).lead = [] := reading_lead plain.2
    have inner := ih plain.2 words
    rw [reading_type? alone] at inner
    rw [CType.reading, Reading.trail_derive_array, CType.normal, foldl_qualify_array,
      type?_derive alone, Derivation.type?, inner]
    rfl
  | trailing inner word ih =>
    rw [CType.reading, ← Reading.trail_append]
    exact ih plain.2 (word :: words)
  | functionPointer result parameters ih ihs =>
    have alone : result.reading.lead = [] := reading_lead plain.2.1
    have unworded := ih plain.2.1 []
    rw [Reading.trail_nil, reading_type? alone] at unworded
    have called : (result.reading.derive (.function (Reading.orVoid
        (readings parameters)))).lead = [] := alone
    rw [CType.reading, Reading.trail_derive_pointer, type?_derive called,
      foldl_qualify words fun _ _ => by cases parameters <;> simp [CType.normal]]
    simp only [Reading.derive, Derivation.type?, unworded]
    cases parameters with
    | nil => rfl
    | cons parameter parameters =>
      have types := types?_readings (fun type mem => by
        simpa [Reading.trail_nil] using ihs type mem (everyIn_iff.1 plain.2.2 type mem) [])
      simp only [readings, Reading.orVoid] at types ⊢
      rw [types]
      rfl
  | leading | external => exact absurd plain.1 id
  | struct => exact absurd plain id

/-- The steps of a plain type lead to it, up to normal form. -/
theorem type?_derivations {type : CType} (plain : type.IsPlain) :
    Derivation.type? (type.reading.words.foldl .trailing (.named type.reading.base))
      type.reading.derivations = some type.normal := by
  have unworded := type?_trail plain []
  rwa [Reading.trail_nil, reading_type? (reading_lead plain)] at unworded

/-- A plain type is what it says about a name, up to normal form. -/
theorem type?_about {type : CType} (plain : type.IsPlain) (name : Option String) :
    (type.reading.about name []).type? = some type.normal := by
  have alone : (type.reading.about name []).lead = [] := reading_lead plain
  rw [reading_type? alone]
  exact type?_derivations plain

/-- A plain type whose spelling ends in a suffix has its star with the name. -/
theorem bindsTighter_of_isPlain {type : CType} (plain : type.IsPlain) :
    type.bindsTighter = type.isSuffixed := by
  induction type using parts_induction with
  | named | array | functionPointer | struct => rfl
  | pointer _ ih | trailing _ _ ih => exact ih plain.2
  | leading | external => exact absurd plain.1 id

/-- A plain type uses words as the grammar does. -/
theorem isWorded_of_isPlain {type : CType} (plain : type.IsPlain) : type.IsWorded [] := by
  refine plain.imp fun part plain => ?_
  cases part with
  | named => exact ⟨plain, List.not_mem_nil⟩
  | trailing => exact plain
  | pointer | array | functionPointer => trivial
  | leading | external | struct => exact absurd plain id

/-- A plain type has no linkage. -/
theorem isContained_of_isPlain {type : CType} (plain : type.IsPlain) : type.IsContained := by
  refine plain.imp fun part plain => ?_
  cases part with
  | external => exact absurd plain id
  | _ => trivial

/-- The stars and words of a plain type stand before the suffixes of what they are applied to. -/
theorem isPlaced_of_isPlain {type : CType} (plain : type.IsPlain) : type.IsPlaced := by
  induction type using parts_induction with
  | named | struct => trivial
  | pointer target ih =>
    refine ⟨fun place => ?_, ih plain.2⟩
    cases target with
    | named => rfl
    | array | functionPointer => simp [starPlace] at place
    | pointer inner =>
      have free : inner.bindsTighter = false := by simpa [starPlace] using place
      exact (bindsTighter_of_isPlain plain.2.2).symm.trans free
    | trailing inner word =>
      have free : (trailing inner word).bindsTighter = false := plain.1
      exact (bindsTighter_of_isPlain plain.2).symm.trans free
    | leading | external => exact absurd plain.2.1 id
    | struct => exact absurd plain.2 id
  | array _ _ ih => exact ⟨trivial, ih plain.2⟩
  | trailing inner word ih =>
    exact ⟨fun free => (bindsTighter_of_isPlain plain.2).symm.trans free, ih plain.2⟩
  | functionPointer _ _ ih ihs =>
    refine ⟨trivial, ih plain.2.1, everyIn_iff.2 fun parameter mem => ?_⟩
    exact ihs parameter mem (everyIn_iff.1 plain.2.2 parameter mem)
  | leading | external => exact absurd plain.1 id

/-- Around a declarator of its own, a plain type is read back with the name in it. -/
theorem read?_declarator {type : CType} (plain : type.IsPlain) {inner : String}
    {tokens : List Token} {name : Option String} (found : Token.ofText inner = some tokens)
    (direct : Grammar.Direct [] tokens name []) :
    read? (type.declarator inner) = some (name, type.normal) := by
  have declared := ofText_around List.not_mem_nil (isWorded_of_isPlain plain)
    (isPlaced_of_isPlain plain) (isContained_of_isPlain plain) found direct
  rw [read?, declared]
  simp only [Option.bind_eq_bind, Option.bind_some, type?_about plain]
  rfl

/-- A plain type is read back from its declaration of a name, with the name, and from its
spelling, without one; so plain types with one spelling are one type up to normal form. -/
theorem read?_declare {type : CType} (plain : type.IsPlain) {name : String} (named : IsName name) :
    read? (type.declare name) = some (some name, type.normal) ∧
      read? type.spelling = some (none, type.normal) ∧
      ∀ other : CType, other.IsPlain → other.spelling = type.spelling →
        other.normal = type.normal := by
  have alone {type : CType} (plain : type.IsPlain) :
      read? type.spelling = some (none, type.normal) :=
    read?_declarator plain Token.ofText_empty .abstract
  refine ⟨read?_declarator plain (Token.ofText_identifier named.1) (.name named.2), alone plain, ?_⟩
  intro other plainToo same
  have both := alone plainToo
  rw [same, alone plain] at both
  exact (Prod.mk.inj (Option.some.inj both)).2.symm

/-- Constant pointers to functions that return a pointer to an array and take one. -/
def table : CType :=
  .array (.trailing (.functionPointer
    (.pointer (.array (.trailing (.pointer (.trailing .char .const)) .const) (some 3)))
    [.size, .pointer (.array .int none), .functionPointer .void []]) .const) (some 2)

/-- A table of pointers to functions is read back. -/
theorem read?_table :
    table.declare "table" = "char const* const (*(*const table[2])(size_t, int (*)[], " ++
        "void (*)(void)))[3]" ∧
      table.IsPlain ∧ IsName "table" ∧
      read? (table.declare "table") = some (some "table", table.normal) := by
  have plain : table.IsPlain := by decide
  have named : IsName "table" := by decide
  exact ⟨rfl, plain, named, (read?_declare plain named).1⟩

end CType
end CSource
