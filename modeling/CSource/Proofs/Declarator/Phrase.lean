import CSource.Proofs.CType.Parts
import CSource.Proofs.Declarator.Grammar

/-!
# The grammar of types

The spelling of a type has a part before the declarator and a part after it. Where every star
and every word of a type stands before all suffixes of what it is applied to, the two parts
around a declarator are a declaration, and it says what the type is (`declaration_around`).
-/

namespace CSource

open Grammar

/-- A name that no grammar rule takes for a word of its own. -/
def IsName (text : String) : Prop :=
  isIdentifier text = true ∧ Qualifier.trailer? text = none

instance (text : String) : Decidable (IsName text) :=
  inferInstanceAs (Decidable (_ ∧ _))

namespace CType

mutual

/-- The tokens of a type before its declarator. -/
def front : CType → List Token
  | named name => [.word name]
  | pointer target =>
    match target.starPlace with
    | .parenthesized => target.front ++ [.parenOpen, .star]
    | .name => target.front ++ [.star]
    | .target => target.front ++ target.back ++ [.star]
  | array element _ => element.front
  | leading word inner => .word word.word :: inner.front
  | trailing inner word =>
    if inner.bindsTighter then inner.front ++ [.word word.word]
    else inner.front ++ inner.back ++ [.word word.word]
  | external (some _) inner => .word "extern" :: .literal :: inner.front
  | external none inner => .word "extern" :: inner.front
  | functionPointer result _ => result.front ++ [.parenOpen, .star]
  | struct _ => []

/-- The tokens of a type after its declarator. -/
def back : CType → List Token
  | named _ | struct _ => []
  | pointer target =>
    match target.starPlace with
    | .parenthesized => .parenClose :: target.back
    | .name => target.back
    | .target => []
  | array element size => Token.ofSize size ++ element.back
  | leading _ inner | external _ inner => inner.back
  | trailing inner _ => if inner.bindsTighter then inner.back else []
  | functionPointer result parameters =>
    [.parenClose, .parenOpen] ++ Token.separated (alone parameters) ++ [.parenClose] ++ result.back

/-- The tokens of types on their own. -/
def alone : List CType → List (List Token)
  | [] => []
  | type :: types => (type.front ++ type.back) :: alone types

end

/-- The tokens of types on their own are taken one by one. -/
theorem alone_eq_map (types : List CType) :
    alone types = types.map fun type => type.front ++ type.back := by
  induction types with
  | nil => rfl
  | cons type types ih => rw [alone, ih, List.map_cons]

/-- Whether the spelling of a type on its own ends in a size or in a list of parameters. -/
def isSuffixed : CType → Bool
  | array .. | functionPointer .. => true
  | pointer inner | leading _ inner | trailing inner _ | external _ inner => inner.isSuffixed
  | named _ | struct _ => false

/-- Whether a star or word of a type stands before the suffixes of what it is applied to. -/
def IsPlacedPart : CType → Prop
  | pointer target => target.starPlace = .target → target.isSuffixed = false
  | trailing inner _ => inner.bindsTighter = false → inner.isSuffixed = false
  | _ => True

instance : DecidablePred IsPlacedPart
  | pointer target =>
    inferInstanceAs (Decidable (target.starPlace = .target → target.isSuffixed = false))
  | trailing inner _ =>
    inferInstanceAs (Decidable (inner.bindsTighter = false → inner.isSuffixed = false))
  | named _ | array .. | leading .. | external .. | functionPointer .. | struct _ => .isTrue trivial

/-- Whether every star and every word of a type stands before the suffixes of what it is applied
to. -/
def IsPlaced (type : CType) : Prop := type.Every IsPlacedPart

instance : DecidablePred IsPlaced := inferInstanceAs (DecidablePred (Every IsPlacedPart))

/-- Whether a part of a type uses words as the grammar does: names that are no words of the
specifier part, words of the specifier part before a type and trailers after one. -/
def IsWordedPart (leads : List String) : CType → Prop
  | named name => IsName name ∧ name ∉ leads
  | leading word _ => word.word ∈ leads
  | trailing _ word => word ∈ Qualifier.trailers
  | external _ _ => "extern" ∈ leads
  | struct _ => False
  | pointer _ | array .. | functionPointer .. => True

instance (leads : List String) : DecidablePred (IsWordedPart leads)
  | named name => inferInstanceAs (Decidable (IsName name ∧ name ∉ leads))
  | leading word _ => inferInstanceAs (Decidable (word.word ∈ leads))
  | trailing _ word => inferInstanceAs (Decidable (word ∈ Qualifier.trailers))
  | external _ _ => inferInstanceAs (Decidable ("extern" ∈ leads))
  | struct _ => .isFalse id
  | pointer _ | array .. | functionPointer .. => .isTrue trivial

/-- Whether a type without a struct uses words as the grammar does. -/
def IsWorded (leads : List String) (type : CType) : Prop := type.Every (IsWordedPart leads)

instance (leads : List String) : DecidablePred (IsWorded leads) :=
  inferInstanceAs (DecidablePred (Every (IsWordedPart leads)))

/-- A type whose star would stand with the name is suffixed. -/
theorem isSuffixed_of_bindsTighter {type : CType} (binds : type.bindsTighter = true) :
    type.isSuffixed = true := by
  induction type using parts_induction with
  | named | struct => simp [bindsTighter] at binds
  | array | functionPointer => rfl
  | pointer _ ih | trailing _ _ ih => exact ih binds
  | leading | external => simp [bindsTighter] at binds

/-- A star on a type that is not suffixed stands with the type. -/
theorem starPlace_of_isSuffixed {type : CType} (free : type.isSuffixed = false) :
    type.starPlace = .target := by
  cases type with
  | array | functionPointer => simp [isSuffixed] at free
  | pointer inner =>
    cases binds : inner.bindsTighter with
    | false => simp [starPlace, binds]
    | true =>
      have suffixed : inner.isSuffixed = true := isSuffixed_of_bindsTighter binds
      simp [isSuffixed, suffixed] at free
  | named | leading | trailing | external | struct => rfl

/-- A type that is not suffixed has nothing after its declarator. -/
theorem back_of_isSuffixed {type : CType} (free : type.isSuffixed = false) : type.back = [] := by
  induction type using parts_induction with
  | named | struct => rfl
  | array | functionPointer => simp [isSuffixed] at free
  | pointer target ih =>
    have place : target.starPlace = .target := starPlace_of_isSuffixed free
    simp [back, place]
  | leading _ _ ih | external _ _ ih => exact ih free
  | trailing inner word ih => simp [back, ih free]

end CType
end CSource
