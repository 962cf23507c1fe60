import CSource.CType.Builtin
import CSource.Declaration.Prototype
import CSource.Proofs.Declarator.ReadBack

/-!
# Reading prototypes

A prototype puts its name and parameters after the spelling of its result type. That is the
declaration of a function with that result exactly where nothing of the result type belongs after
the parameters (`Prototype.read?_text_iff`); the type of a pointer to the function always is.
-/

namespace CSource

open Grammar

/-- What a declaration of a function says. -/
structure Signature where
  /-- The name of the function. -/
  name : String
  /-- The names, if any, and the types of its parameters. -/
  parameters : List (Option String × CType)
  /-- The type of its result. -/
  result : CType
deriving DecidableEq

namespace Reading

/-- The names and types that parameters say. -/
def declared? (parameters : List Reading) : Option (List (Option String × CType)) :=
  parameters.mapM fun parameter => parameter.type?.map fun type => (parameter.name, type)

/-- The function that a reading says, if it says one. -/
def function? : Reading → Option Signature
  | ⟨[], base, words, some name, .function parameters :: steps⟩ => do
    let result ← Derivation.type? (words.foldl .trailing (.named base)) steps
    let parameters ← declared? parameters
    some ⟨name, parameters, result⟩
  | _ => none

end Reading

namespace Parameter

/-- Whether a parameter has a name and a type that are read back. -/
def IsPlain : Parameter → Prop
  | named type name => type.IsPlain ∧ IsName name
  | variadic => False

instance : DecidablePred IsPlain
  | named type name => inferInstanceAs (Decidable (type.IsPlain ∧ IsName name))
  | variadic => .isFalse id

/-- The tokens of a parameter. -/
def tokens : Parameter → List Token
  | named type name => type.front ++ [.word name] ++ type.back
  | variadic => []

/-- What a parameter says. -/
def reading : Parameter → Reading
  | named type name => type.reading.about (some name) []
  | variadic => .ofBase "..."

/-- The name and the type of a parameter, up to what C does not tell apart. -/
def declared : Parameter → Option String × CType
  | named type name => (some name, type.normal)
  | variadic => (none, .named "...")

/-- A plain parameter has its own tokens. -/
theorem IsPlain.ofText {parameter : Parameter} (plain : parameter.IsPlain) :
    Token.ofText parameter.text = some parameter.tokens := by
  cases parameter with
  | named type name =>
    exact CType.ofText_declarator (CType.isWorded_of_isPlain plain.1)
      (CType.isContained_of_isPlain plain.1) (Token.ofText_identifier plain.2.1)
  | variadic => exact absurd plain id

/-- The tokens of a plain parameter are a declaration that says what the parameter is. -/
theorem IsPlain.declaration {parameter : Parameter} (plain : parameter.IsPlain) :
    Grammar.Declaration [] parameter.tokens parameter.reading := by
  cases parameter with
  | named type name =>
    have direct : Direct [] [.word name] (some name) [] := .name plain.2.2
    have around := CType.declaration_around List.not_mem_nil (CType.isWorded_of_isPlain plain.1)
      (CType.isPlaced_of_isPlain plain.1) [] (List.forall_mem_nil _) (.direct direct)
      fun _ => direct
    rwa [Reading.trail_nil, Token.ofWords, List.map_nil, List.append_nil] at around
  | variadic => exact absurd plain id

/-- A plain parameter says its name and its type. -/
theorem IsPlain.declared {parameter : Parameter} (plain : parameter.IsPlain) :
    (parameter.reading.type?.map fun type => (parameter.reading.name, type)) =
      some parameter.declared := by
  cases parameter with
  | named type name =>
    rw [reading, CType.type?_about plain.1]
    rfl
  | variadic => exact absurd plain id

end Parameter

namespace CType

/-- A base and a declarator that starts with a name have a space between them. -/
theorem attach_name {name : String} (identifier : isIdentifier name = true) (base rest : String) :
    attach base (name ++ rest) = base ++ " " ++ (name ++ rest) := by
  unfold isIdentifier at identifier
  cases shape : name.toList with
  | nil => simp [shape] at identifier
  | cons first others =>
    simp only [shape, Bool.and_eq_true] at identifier
    have start : first ≠ '[' := by
      rintro rfl
      exact absurd identifier.1.1 (by decide)
    simp [attach, shape, start]

/-- A type whose star stands with it stands before its declarator as a whole. -/
theorem declarator_eq_attach {type : CType} (plain : type.IsPlain)
    (free : type.bindsTighter = false) (inner : String) :
    type.declarator inner = attach type.spelling inner := by
  have alone (base : String) : attach base "" = base := rfl
  cases type with
  | named name => simp only [declarator, spelling, alone]
  | pointer target =>
    have suffixless : target.isSuffixed = false := (bindsTighter_of_isPlain plain.2).symm.trans free
    have place : target.starPlace = .target := starPlace_of_isSuffixed suffixless
    simp only [declarator, spelling, place, alone]
  | trailing inner word =>
    have binds : inner.bindsTighter = false := free
    simp only [declarator, spelling, binds, alone, Bool.false_eq_true, if_false]
  | array | functionPointer => simp [bindsTighter] at free
  | leading | external => exact absurd plain.1 id
  | struct => exact absurd plain id

end CType

namespace Prototype

/-- The name of a function and its parameters, as the declarator of its result type. -/
def call (prototype : Prototype) : String :=
  prototype.name ++ "(" ++ CType.parameterList (prototype.parameters.map Parameter.text) ++ ")"

/-- What a prototype describes, up to what C does not tell apart. -/
def signature (prototype : Prototype) : Signature where
  name := prototype.name
  parameters := match prototype.parameters with
    | [] => [(none, .named "void")]
    | parameters => parameters.map Parameter.declared
  result := prototype.result.normal

/-- The function that a text declares, if it declares one. -/
def read? (text : String) : Option Signature := (Reading.ofText [] text).bind Reading.function?

variable {prototype : Prototype}

/-- The tokens of the name of a function and its parameters. -/
def callTokens (prototype : Prototype) : List Token :=
  [.word prototype.name] ++
    .parenOpen :: Token.separated (prototype.parameters.map Parameter.tokens) ++ [.parenClose]

/-- The step from a function to its result. -/
def step (prototype : Prototype) : Derivation :=
  .function (Reading.orVoid (prototype.parameters.map Parameter.reading))

/-- The name of a function and its parameters have their own tokens. -/
theorem ofText_call (named : IsName prototype.name)
    (parameters : ∀ parameter ∈ prototype.parameters, parameter.IsPlain) :
    Token.ofText prototype.call = some prototype.callTokens := by
  have list := Token.ofText_parameterList fun parameter mem => (parameters parameter mem).ofText
  have opened : Token.Closed "(" [.parenOpen] := rfl
  have closed : Token.ofText ")" = some [.parenClose] := rfl
  have name := Token.ofText_identifier named.1
  have inner := opened.ofText_append list
  have separated : ∀ char ∈ ("(" ++ CType.parameterList
      (prototype.parameters.map Parameter.text)).toList.head?, Token.isSeparator char = true := by
    simp [Token.isSeparator, Token.ofMark]
  have front := Token.ofText_append name separated
  rw [inner, Option.map_some, ← String.append_assoc] at front
  rw [call, Token.ofText_append front (by simp [Token.isSeparator, Token.ofMark]), closed]
  simp [callTokens]

/-- The name of a function and its parameters are a direct declarator. -/
theorem direct_call (named : IsName prototype.name)
    (parameters : ∀ parameter ∈ prototype.parameters, parameter.IsPlain) :
    Direct [] prototype.callTokens (some prototype.name) [prototype.step] := by
  have list := parameters_separated List.not_mem_nil fun parameter mem =>
    (parameters parameter mem).declaration
  exact .function (.name named.2) (by simp) list

/-- What the parameters of a function say is what its prototype describes. -/
theorem declared?_parameters
    (parameters : ∀ parameter ∈ prototype.parameters, parameter.IsPlain) :
    Reading.declared? (Reading.orVoid (prototype.parameters.map Parameter.reading)) =
      some prototype.signature.parameters := by
  have each : ∀ list : List Parameter, (∀ parameter ∈ list, parameter.IsPlain) →
      Reading.declared? (list.map Parameter.reading) = some (list.map Parameter.declared) := by
    intro list plain
    induction list with
    | nil => rfl
    | cons parameter list ih =>
      have first := (plain parameter (by simp)).declared
      have rest := ih fun next mem => plain next (List.mem_cons_of_mem _ mem)
      rw [Reading.declared?] at rest ⊢
      rw [List.map_cons, List.mapM_cons, first, rest]
      rfl
  cases shape : prototype.parameters with
  | nil => simp [signature, shape]; rfl
  | cons parameter list =>
    have all := each prototype.parameters parameters
    rw [shape] at all
    simpa [signature, shape, Reading.orVoid] using all

/-- The declaration of the name and parameters with the result type is read as the function. -/
theorem read?_declare_call (named : IsName prototype.name) (result : prototype.result.IsPlain)
    (parameters : ∀ parameter ∈ prototype.parameters, parameter.IsPlain) :
    read? (prototype.result.declare prototype.call) = some prototype.signature := by
  have around := CType.ofText_around List.not_mem_nil (CType.isWorded_of_isPlain result)
    (CType.isPlaced_of_isPlain result) (CType.isContained_of_isPlain result)
    (ofText_call named parameters) (direct_call named parameters)
  have alone := CType.reading_lead result
  have steps := CType.type?_derivations result
  have said := declared?_parameters parameters
  rw [read?, CType.declare, around, Option.bind_some]
  generalize prototype.result.reading = reading at alone steps
  obtain ⟨lead, base, words, name, derivations⟩ := reading
  obtain rfl : lead = [] := alone
  simp only [Reading.about, step, List.cons_append, List.nil_append, Reading.function?] at steps ⊢
  rw [steps, said]
  rfl

/-- The prototype of a function that returns no suffixed type is its declaration. -/
theorem text_eq_declare (named : IsName prototype.name) (result : prototype.result.IsPlain)
    (free : prototype.result.bindsTighter = false) :
    prototype.text = prototype.result.declare prototype.call := by
  rw [CType.declare, CType.declarator_eq_attach result free, call, String.append_assoc,
    String.append_assoc, CType.attach_name named.1]
  simp [text, String.append_assoc]

/-- The prototype of a function that returns a suffixed type is no declaration. -/
theorem read?_text_eq_none (named : IsName prototype.name) (result : prototype.result.IsPlain)
    (parameters : ∀ parameter ∈ prototype.parameters, parameter.IsPlain)
    (binds : prototype.result.bindsTighter = true) : read? prototype.text = none := by
  have attached : prototype.text = CType.attach prototype.result.spelling prototype.call := by
    rw [call, String.append_assoc, String.append_assoc, CType.attach_name named.1]
    simp [text, String.append_assoc]
  have spelling := CType.ofText_declarator (CType.isWorded_of_isPlain result)
    (CType.isContained_of_isPlain result) Token.ofText_empty
  have tokens := Token.ofText_attach spelling (ofText_call named parameters)
  have unread := CType.run_after_back (CType.isPlaced_of_isPlain result)
    (CType.isSuffixed_of_bindsTighter binds) (.word prototype.name)
    (fun _ core => core.step_word [] prototype.name) Reader.start
  have named : prototype.result.front ++ [] ++ prototype.result.back ++ prototype.callTokens =
      prototype.result.front ++ prototype.result.back ++ .word prototype.name ::
        (.parenOpen :: Token.separated (prototype.parameters.map Parameter.tokens) ++
          [.parenClose]) := by
    simp [callTokens]
  rw [read?, attached, Reading.ofText, CType.spelling, tokens, Option.bind_some, named,
    Reading.ofTokens, unread, Option.bind_none, Option.bind_none]

/-- The type of a pointer to a function is plain where the function is. -/
theorem isPlain_pointerType (result : prototype.result.IsPlain)
    (parameters : ∀ parameter ∈ prototype.parameters, parameter.IsPlain) :
    prototype.pointerType.IsPlain := by
  refine ⟨trivial, result, CType.everyIn_iff.2 fun type mem => ?_⟩
  obtain ⟨parameter, listed, rfl⟩ := List.mem_map.1 mem
  have plain := parameters parameter listed
  cases parameter with
  | named type name => exact plain.1
  | variadic => exact absurd plain id

/-- The type of a pointer to a function is the type of a pointer to what its prototype
describes. -/
theorem normal_pointerType (parameters : ∀ parameter ∈ prototype.parameters, parameter.IsPlain) :
    prototype.pointerType.normal = .functionPointer prototype.signature.result
      (prototype.signature.parameters.map Prod.snd) := by
  have each : ∀ list : List Parameter, (∀ parameter ∈ list, parameter.IsPlain) →
      CType.normals (list.map Parameter.type) =
        (list.map Parameter.declared).map Prod.snd := by
    intro list plain
    induction list with
    | nil => rfl
    | cons parameter list ih =>
      have rest := ih fun next mem => plain next (List.mem_cons_of_mem _ mem)
      have first := plain parameter (by simp)
      cases parameter with
      | named type name => simp [CType.normals, Parameter.type, Parameter.declared, rest]
      | variadic => exact absurd first id
  cases shape : prototype.parameters with
  | nil => simp [pointerType, signature, shape, CType.normal]
  | cons parameter list =>
    have all := each prototype.parameters parameters
    rw [shape] at all
    simp only [List.map_cons, CType.normals] at all
    simp [pointerType, signature, shape, CType.normal, all]

/-- A prototype declares the function that it describes exactly where its result type is not
suffixed, which is where it is the declaration of the name and parameters with the result type.
That declaration always says the function, and the type of a pointer to the function always says
a pointer to it. -/
theorem read?_text_iff (named : IsName prototype.name) (result : prototype.result.IsPlain)
    (parameters : ∀ parameter ∈ prototype.parameters, parameter.IsPlain) :
    (read? prototype.text = some prototype.signature ↔ prototype.result.bindsTighter = false) ∧
      (prototype.text = prototype.result.declare prototype.call ↔
        prototype.result.bindsTighter = false) ∧
      read? (prototype.result.declare prototype.call) = some prototype.signature ∧
      ∀ name : String, IsName name → CType.read? (prototype.pointerType.declare name) =
        some (some name, .functionPointer prototype.signature.result
          (prototype.signature.parameters.map Prod.snd)) := by
  have called := read?_declare_call named result parameters
  have unread : prototype.result.bindsTighter = true → read? prototype.text = none :=
    read?_text_eq_none named result parameters
  have free : read? prototype.text = some prototype.signature →
      prototype.result.bindsTighter = false := by
    intro read
    cases binds : prototype.result.bindsTighter with
    | false => rfl
    | true =>
      rw [unread binds] at read
      contradiction
  have same : prototype.result.bindsTighter = false →
      prototype.text = prototype.result.declare prototype.call :=
    text_eq_declare named result
  refine ⟨⟨free, fun binds => ?_⟩, ⟨fun text => free ?_, same⟩, called, fun name identifier => ?_⟩
  · rw [same binds, called]
  · rw [text, called]
  · rw [← normal_pointerType parameters]
    exact CType.read?_declarator (isPlain_pointerType result parameters)
      (Token.ofText_identifier identifier.1) (.name identifier.2)

/-- The prototype of a function that returns a pointer to a function puts its name after the
parameters of that function. -/
theorem text_functionPointer :
    let prototype : Prototype := { result := .functionPointer .int [], name := "f" }
    prototype.text = "int (*)(void) f(void)" ∧
      prototype.result.declare prototype.call = "int (*f(void))(void)" ∧
      read? prototype.text = none ∧ read? prototype.text ≠ some prototype.signature := by
  intro prototype
  have unread : read? prototype.text = none := Option.isNone_iff_eq_none.1 (by decide)
  refine ⟨by rfl, by decide, unread, ?_⟩
  rw [unread]
  exact (Option.some_ne_none _).symm

/-- The prototype of a function that takes a function is read as that function. -/
theorem read?_sort :
    let prototype : Prototype := {
      result := .pointer .char
      name := "sort"
      parameters := [.named (.array (.pointer .char) none) "names",
        .functionPointer .int "compare" [.char, .char]] }
    prototype.text = "char* sort(char* names[], int (*compare)(char, char))" ∧
      IsName prototype.name ∧ prototype.result.IsPlain ∧
      (∀ parameter ∈ prototype.parameters, parameter.IsPlain) ∧
      read? prototype.text = some prototype.signature := by
  intro prototype
  have named : IsName prototype.name := by decide
  have result : prototype.result.IsPlain := by decide
  have parameters : ∀ parameter ∈ prototype.parameters, parameter.IsPlain := by decide
  exact ⟨by rfl, named, result, parameters, (read?_text_iff named result parameters).1.2 rfl⟩

end Prototype
end CSource
