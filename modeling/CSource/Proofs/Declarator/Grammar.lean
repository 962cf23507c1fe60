import CSource.CType.Basic
import CSource.Proofs.Declarator.Token

/-!
# Grammar of declarators

A declaration is a specifier part and a declarator. The declarator stands around the declared
name as a use of the name would: the arrays and parameter lists after a name bind it before the
stars in front of it, and parentheses group. What a declaration says is the list of steps from
the name to the base type (`Derivation`), nearest the name first. A declarator without a name is
abstract; parameters may have one or not. A parenthesis in place of the name opens a group: no
type is spelled as a function without a name.
-/

namespace CSource

mutual

/-- One step from a declared name towards its base type. -/
inductive Derivation where
  /-- A pointer, with the words after its star. -/
  | pointer (words : List Qualifier)
  /-- An array, with or without a size. -/
  | array (size : Option Nat)
  /-- A function with its parameters. -/
  | function (parameters : List Reading)

/-- What a declaration says. -/
structure Reading where
  /-- The tokens before the name of the base type. -/
  lead : List Token
  /-- The name of the base type. -/
  base : String
  /-- The words after the name of the base type. -/
  words : List Qualifier
  /-- The declared name, if there is one. -/
  name : Option String
  /-- The steps from the name to the base type. -/
  derivations : List Derivation

end

/-- The words that may stand after a base type or a star. -/
def Qualifier.trailers : List Qualifier := [.const, .volatile, .restrict]

/-- The trailer that a word is, if it is one. -/
def Qualifier.trailer? (word : String) : Option Qualifier :=
  Qualifier.trailers.find? fun trailer => trailer.word = word

/-- A trailer is found by its word. -/
theorem Qualifier.trailer?_word {word : Qualifier} (trailer : word ∈ trailers) :
    trailer? word.word = some word := by
  revert trailer
  cases word <;> decide

/-- Words of trailers as tokens. -/
def Token.ofWords (words : List Qualifier) : List Token := words.map fun word => .word word.word

/-- The size of an array as tokens. -/
def Token.ofSize : Option Nat → List Token
  | some size => [.bracketOpen, .number size, .bracketClose]
  | none => [.bracketOpen, .bracketClose]

/-- Lists of tokens between commas; `void` stands for none. -/
def Token.separated : List (List Token) → List Token
  | [] => [.word "void"]
  | [tokens] => tokens
  | tokens :: others => tokens ++ .comma :: separated others

namespace Grammar

/-- The tokens before the name of a base type: words from a given list, and a string literal
right after the word for a linkage. -/
inductive Lead (leads : List String) : List Token → Prop where
  /-- Nothing stands before the name. -/
  | nothing : Lead leads []
  /-- A word from the list. -/
  | word {text : String} {rest : List Token} (listed : text ∈ leads) (tail : Lead leads rest) :
      Lead leads (.word text :: rest)
  /-- A linkage with its name. -/
  | linkage {rest : List Token} (listed : "extern" ∈ leads) (tail : Lead leads rest) :
      Lead leads (.word "extern" :: .literal :: rest)

mutual

/-- A declarator: stars in front of a direct declarator. -/
inductive Declarator (leads : List String) : List Token → Option String → List Derivation → Prop
    where
  /-- A declarator without a star. -/
  | direct {tokens : List Token} {name : Option String} {steps : List Derivation}
      (inner : Direct leads tokens name steps) : Declarator leads tokens name steps
  /-- A star, with its words, binds after everything to its right. -/
  | pointer {tokens : List Token} {name : Option String} {steps : List Derivation}
      (words : List Qualifier) (trailers : ∀ word ∈ words, word ∈ Qualifier.trailers)
      (inner : Declarator leads tokens name steps) :
      Declarator leads (.star :: Token.ofWords words ++ tokens) name (steps ++ [.pointer words])

/-- A direct declarator: a name, a group or nothing, and the suffixes after it. -/
inductive Direct (leads : List String) : List Token → Option String → List Derivation → Prop
    where
  /-- Nothing stands for the name. -/
  | abstract : Direct leads [] none []
  /-- The declared name. -/
  | name {text : String} (free : Qualifier.trailer? text = none) :
      Direct leads [.word text] (some text) []
  /-- A declarator in parentheses. -/
  | group {tokens : List Token} {name : Option String} {steps : List Derivation}
      (inner : Declarator leads tokens name steps) (nonempty : tokens ≠ []) :
      Direct leads (.parenOpen :: tokens ++ [.parenClose]) name steps
  /-- The size of an array. -/
  | array {tokens : List Token} {name : Option String} {steps : List Derivation}
      (inner : Direct leads tokens name steps) (size : Option Nat) :
      Direct leads (tokens ++ Token.ofSize size) name (steps ++ [.array size])
  /-- The parameters of a function. -/
  | function {tokens list : List Token} {name : Option String} {steps : List Derivation}
      {parameters : List Reading} (inner : Direct leads tokens name steps)
      (nonempty : tokens ≠ []) (parameterList : Parameters leads list parameters) :
      Direct leads (tokens ++ .parenOpen :: list ++ [.parenClose]) name
        (steps ++ [.function parameters])

/-- Parameters between commas. -/
inductive Parameters (leads : List String) : List Token → List Reading → Prop where
  /-- One parameter. -/
  | last {tokens : List Token} {parameter : Reading}
      (declared : Declaration leads tokens parameter) : Parameters leads tokens [parameter]
  /-- A parameter before others. -/
  | more {tokens list : List Token} {parameter : Reading} {parameters : List Reading}
      (declared : Declaration leads tokens parameter)
      (others : Parameters leads list parameters) :
      Parameters leads (tokens ++ .comma :: list) (parameter :: parameters)

/-- A declaration: the specifier part, which names the base type, and one declarator. -/
inductive Declaration (leads : List String) : List Token → Reading → Prop where
  /-- A base type and a declarator. -/
  | mk {lead tokens : List Token} {base : String} {words : List Qualifier} {name : Option String}
      {steps : List Derivation} (led : Lead leads lead) (unled : base ∉ leads)
      (free : Qualifier.trailer? base = none)
      (trailers : ∀ word ∈ words, word ∈ Qualifier.trailers)
      (inner : Declarator leads tokens name steps) :
      Declaration leads (lead ++ .word base :: Token.ofWords words ++ tokens)
        ⟨lead, base, words, name, steps⟩

end

end Grammar
end CSource
